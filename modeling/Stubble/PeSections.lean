import Stubble.Basic

/-!
# The PE section locator of `bootctl`

`pe_sections` of `bootctl-uki.c`, run on the state of `inspect_kernel`: the stream opened on the
kernel image and the caller's output variables. `pe-header.h` is not under src/; the header records
are decoded field by field from the PE/COFF layout, which fixes every offset used below.
-/

namespace Stubble

/-- `KernelType`, the three answers of `bootctl kernel-identify`. -/
inductive KernelType where
  | unknown
  | uki
  | pe
  deriving DecidableEq, Repr

/-- The caller's variables behind the output pointers of `inspect_kernel`; `none` while
`inspect_kernel` has not written them. A written pointer holds NULL (`none`) or a buffer. -/
structure Outputs where
  type : Option KernelType
  cmdline : Option (Option (List UInt8))
  uname : Option (Option (List UInt8))
  prettyName : Option (Option String)
  deriving DecidableEq, Repr

/-- Output variables none of which has been written yet. -/
def Outputs.untouched : Outputs := ⟨none, none, none, none⟩

/-- The state `inspect_kernel` runs on: the `FILE *` it opened and the caller's outputs. A failed
call keeps the state it reached, as C does. -/
structure Machine where
  uki : FileStream
  out : Outputs

abbrev UkiM := EStateM Failure Machine

/-- What a run returned, with the state left out. -/
def resultOf {α : Type} : EStateM.Result Failure Machine α → Except Failure α
  | .ok a _ => .ok a
  | .error e _ => .error e

/-- The state a run ended in, whether it returned or failed. -/
def stateOf {α : Type} : EStateM.Result Failure Machine α → Machine
  | .ok _ m => m
  | .error _ m => m

/-- `fread` on the UKI stream. -/
def fread (size nmemb : Nat) : UkiM (Nat × List UInt8) := fun m =>
  .ok (m.uki.fread size nmemb).1 { m with uki := (m.uki.fread size nmemb).2 }

/-- `fseek(uki, off, SEEK_SET)`, which cannot fail on the regular file `inspect_kernel` opened: the
offsets `pe_sections` passes are below `2 ^ 33`, non-negative `long`s on an LP64 target. (On ILP32
an offset of `2 ^ 31` or more does not fit a `long`, and `fseek` fails with `EINVAL`.) -/
def fseek (off : Nat) : UkiM Unit := fun m => .ok () { m with uki := m.uki.fseek off }

section Run
variable {α β : Type}

@[simp] lemma resultOf_ok (a : α) (m : Machine) : resultOf (.ok a m) = .ok a := rfl

@[simp] lemma resultOf_error (e : Failure) (m : Machine) :
    resultOf (.error e m : EStateM.Result Failure Machine α) = .error e := rfl

@[simp] lemma stateOf_ok (a : α) (m : Machine) : stateOf (.ok a m) = m := rfl

@[simp] lemma stateOf_error (e : Failure) (m : Machine) :
    stateOf (.error e m : EStateM.Result Failure Machine α) = m := rfl

lemma resultOf_ite (c : Prop) [Decidable c] (x y : EStateM.Result Failure Machine α) :
    resultOf (if c then x else y) = if c then resultOf x else resultOf y := by
  split <;> rfl

lemma stateOf_ite (c : Prop) [Decidable c] (x y : EStateM.Result Failure Machine α) :
    stateOf (if c then x else y) = if c then stateOf x else stateOf y := by
  split <;> rfl

@[simp] lemma run_bind (x : UkiM α) (f : α → UkiM β) (m : Machine) :
    (x >>= f).run m = match x.run m with
      | .ok a m' => (f a).run m'
      | .error e m' => .error e m' := by
  show EStateM.bind x f m = _
  delta EStateM.run EStateM.bind
  cases x m <;> rfl

@[simp] lemma run_pure (a : α) (m : Machine) : (pure a : UkiM α).run m = .ok a m := rfl

@[simp] lemma run_throw (e : Failure) (m : Machine) : (throw e : UkiM α).run m = .error e m := rfl

@[simp] lemma run_modify (f : Machine → Machine) (m : Machine) :
    (modify f : UkiM Unit).run m = .ok () (f m) := rfl

@[simp] lemma run_ite (c : Prop) [Decidable c] (x y : UkiM α) (m : Machine) :
    (if c then x else y).run m = if c then x.run m else y.run m := by
  split <;> rfl

@[simp] lemma run_fread (size nmemb : Nat) (m : Machine) :
    (fread size nmemb).run m =
      .ok (m.uki.fread size nmemb).1 { m with uki := (m.uki.fread size nmemb).2 } := rfl

@[simp] lemma run_fseek (off : Nat) (m : Machine) :
    (fseek off).run m = .ok () { m with uki := m.uki.fseek off } := rfl

end Run

/-! ## Header records -/

def sizeofDosMagic : Nat := 2
def sizeofDosFileHeader : Nat := 64
def sizeofPeHeader : Nat := 24
def sizeofPeSectionHeader : Nat := 40

/-- `MAX_SECTIONS`, the cap on the section count. -/
def maxSections : Nat := 96

/-- `dos_file_magic`, "MZ". -/
def dosFileMagic : List UInt8 := [0x4d, 0x5a]

/-- `pe_file_magic`, "PE\0\0". -/
def peFileMagic : List UInt8 := [0x50, 0x45, 0, 0]

/-- The fields of `struct DosFileHeader` that `pe_sections` reads. -/
structure DosFileHeader where
  magic : List UInt8
  exeHeader : Nat

def DosFileHeader.decode (raw : List UInt8) : DosFileHeader := ⟨raw.take 2, fieldLE raw 60 4⟩

/-- The fields of `struct PeFileHeader` that `pe_sections` reads. -/
structure PeFileHeader where
  numberOfSections : Nat
  sizeOfOptionalHeader : Nat

/-- The fields of `struct PeHeader` that `pe_sections` reads. -/
structure PeHeader where
  magic : List UInt8
  fileHeader : PeFileHeader

def PeHeader.decode (raw : List UInt8) : PeHeader :=
  ⟨raw.take 4, ⟨fieldLE raw 6 2, fieldLE raw 20 2⟩⟩

/-- The fields of `struct PeSectionHeader` that the section reader uses. -/
structure PeSectionHeader where
  name : List UInt8
  virtualSize : Nat
  pointerToRawData : Nat
  deriving DecidableEq, Repr

def PeSectionHeader.decode (raw : List UInt8) : PeSectionHeader :=
  ⟨raw.take 8, fieldLE raw 8 4, fieldLE raw 20 4⟩

/-- The first `n` section-header records of a table read into `raw`. -/
def decodeSections : Nat → List UInt8 → List PeSectionHeader
  | 0, _ => []
  | n + 1, raw => PeSectionHeader.decode raw :: decodeSections n (raw.drop sizeofPeSectionHeader)

@[simp] lemma length_decodeSections (n : Nat) (raw : List UInt8) :
    (decodeSections n raw).length = n := by
  induction n generalizing raw with
  | zero => rfl
  | succ n ih => simp [decodeSections, ih]

lemma fieldLE_take (l : List UInt8) {n off w : Nat} (h : off + w ≤ n) :
    fieldLE (l.take n) off w = fieldLE l off w := by
  simp only [fieldLE, List.drop_take, List.take_take]
  congr 2
  omega

@[simp] lemma dosFileHeader_magic (F : List UInt8) :
    (DosFileHeader.decode (F.take sizeofDosFileHeader)).magic.take dosFileMagic.length = F.take 2 := by
  simp [DosFileHeader.decode, dosFileMagic, sizeofDosFileHeader, List.take_take, Nat.min_def]

@[simp] lemma dosFileHeader_exeHeader (F : List UInt8) :
    (DosFileHeader.decode (F.take sizeofDosFileHeader)).exeHeader = ofLE ((F.drop 60).take 4) :=
  fieldLE_take F (by decide)

@[simp] lemma peHeader_magic (l : List UInt8) :
    (PeHeader.decode (l.take sizeofPeHeader)).magic.take peFileMagic.length = l.take 4 := by
  simp [PeHeader.decode, peFileMagic, sizeofPeHeader, List.take_take, Nat.min_def]

@[simp] lemma peHeader_numberOfSections (l : List UInt8) :
    (PeHeader.decode (l.take sizeofPeHeader)).fileHeader.numberOfSections =
      ofLE ((l.drop 6).take 2) :=
  fieldLE_take l (by decide)

@[simp] lemma peHeader_sizeOfOptionalHeader (l : List UInt8) :
    (PeHeader.decode (l.take sizeofPeHeader)).fileHeader.sizeOfOptionalHeader =
      ofLE ((l.drop 20).take 2) :=
  fieldLE_take l (by decide)

lemma PeSectionHeader.decode_take (raw : List UInt8) {n : Nat} (h : sizeofPeSectionHeader ≤ n) :
    PeSectionHeader.decode (raw.take n) = PeSectionHeader.decode raw := by
  simp only [sizeofPeSectionHeader] at h
  simp only [decode, List.take_take, fieldLE_take raw (by omega : 8 + 4 ≤ n),
    fieldLE_take raw (by omega : 20 + 4 ≤ n), min_eq_left (by omega : 8 ≤ n)]

lemma decodeSections_take (n : Nat) (raw : List UInt8) :
    decodeSections n (raw.take (sizeofPeSectionHeader * n)) = decodeSections n raw := by
  induction n generalizing raw with
  | zero => rfl
  | succ n ih =>
    have hn : sizeofPeSectionHeader * (n + 1) - sizeofPeSectionHeader = sizeofPeSectionHeader * n := by
      simp only [sizeofPeSectionHeader]; omega
    rw [decodeSections, decodeSections, PeSectionHeader.decode_take _ (by
      simp only [sizeofPeSectionHeader]; omega), List.drop_take, hn, ih]

/-! ## `pe_sections` -/

/-- `pe_sections`: the section table of the stream, `none` for NULL when the stream is no PE
image or declares more than `MAX_SECTIONS` sections. -/
def peSections : UkiM (Option (List PeSectionHeader)) := do
  let (items, raw) ← fread 1 sizeofDosFileHeader
  let dos := DosFileHeader.decode raw
  if items < sizeofDosMagic then
    throw (logErrorErrno Errno.EIO ("File is smaller than DOS magic (got " ++ toString items ++
      " of " ++ toString sizeofDosMagic ++ " bytes)"))
  if memcmp dos.magic dosFileMagic dosFileMagic.length ≠ .eq then
    return none
  if items ≠ sizeofDosFileHeader then
    throw (logErrorErrno Errno.EIO ("File is smaller than DOS header (got " ++ toString items ++
      " of " ++ toString sizeofDosFileHeader ++ " bytes)"))
  fseek dos.exeHeader
  let (items, raw) ← fread 1 sizeofPeHeader
  if items ≠ sizeofPeHeader then
    throw (logErrorErrno Errno.EIO "PE header read error")
  let pe := PeHeader.decode raw
  if memcmp pe.magic peFileMagic peFileMagic.length ≠ .eq then
    return none
  let soff := dos.exeHeader + sizeofPeHeader + pe.fileHeader.sizeOfOptionalHeader
  fseek soff
  let scount := pe.fileHeader.numberOfSections
  if scount > maxSections then
    return none
  let (items, raw) ← fread sizeofPeSectionHeader scount
  if items ≠ scount then
    throw (logErrorErrno Errno.EIO "PE section header read error")
  return some (decodeSections scount raw)

/-- `pe_sections` on a stream fresh from `fopen`, as a function of the file's bytes: each `fread`
becomes the slice of the file at the offset the preceding `fseek` chose. -/
def peSectionsOfBytes (F : List UInt8) : Except Failure (Option (List PeSectionHeader)) :=
  let raw := F.take sizeofDosFileHeader
  let dos := DosFileHeader.decode raw
  if raw.length < sizeofDosMagic then
    .error (logErrorErrno Errno.EIO ("File is smaller than DOS magic (got " ++ toString raw.length ++
      " of " ++ toString sizeofDosMagic ++ " bytes)"))
  else if ¬dos.magic.take dosFileMagic.length = dosFileMagic.take dosFileMagic.length then .ok none
  else if ¬raw.length = sizeofDosFileHeader then
    .error (logErrorErrno Errno.EIO ("File is smaller than DOS header (got " ++ toString raw.length ++
      " of " ++ toString sizeofDosFileHeader ++ " bytes)"))
  else
    let raw := (F.drop dos.exeHeader).take sizeofPeHeader
    let pe := PeHeader.decode raw
    if ¬raw.length = sizeofPeHeader then .error (logErrorErrno Errno.EIO "PE header read error")
    else if ¬pe.magic.take peFileMagic.length = peFileMagic.take peFileMagic.length then .ok none
    else
      let soff := dos.exeHeader + sizeofPeHeader + pe.fileHeader.sizeOfOptionalHeader
      let scount := pe.fileHeader.numberOfSections
      let raw := (F.drop soff).take (sizeofPeSectionHeader * scount)
      if scount > maxSections then .ok none
      else if ¬raw.length / sizeofPeSectionHeader = scount then
        .error (logErrorErrno Errno.EIO "PE section header read error")
      else .ok (some (decodeSections scount raw))

/-- On a fresh stream `pe_sections` returns what `peSectionsOfBytes` computes from the file, and it
leaves the file and the caller's outputs as they were. -/
theorem peSections_run (m : Machine) (h : m.uki.pos = 0) :
    resultOf (peSections.run m) = peSectionsOfBytes m.uki.data ∧
      (stateOf (peSections.run m)).out = m.out ∧
      (stateOf (peSections.run m)).uki.data = m.uki.data := by
  obtain ⟨⟨F, pos⟩, out⟩ := m
  subst h
  simp only [peSections, peSectionsOfBytes, run_bind, run_pure, run_throw, run_ite, run_fread,
    run_fseek, FileStream.fread, FileStream.fseek, FileStream.avail, memcmp_eq_iff, List.drop_zero,
    one_mul, Nat.div_one, ne_eq]
  exact ⟨by simp only [resultOf_ite, resultOf_ok, resultOf_error],
    by simp only [stateOf_ite, stateOf_ok, stateOf_error, apply_ite Machine.out, ite_self],
    by simp only [stateOf_ite, stateOf_ok, stateOf_error, apply_ite Machine.uki,
      apply_ite FileStream.data, ite_self]⟩

/-- Wherever the stream stands, a section table `pe_sections` returns has at most `MAX_SECTIONS`
entries. -/
lemma peSections_length_le (m : Machine) (sections : List PeSectionHeader)
    (h : resultOf (peSections.run m) = .ok (some sections)) : sections.length ≤ maxSections := by
  simp only [peSections, run_bind, run_pure, run_throw, run_ite, run_fread, run_fseek,
    resultOf_ite, resultOf_ok, resultOf_error, ite_eq_iff, reduceCtorEq, Except.ok.injEq,
    Option.some.injEq, and_false, false_or, or_false] at h
  obtain ⟨-, -, -, -, -, hn, -, rfl⟩ := h
  exact (length_decodeSections _ _).trans_le (not_lt.mp hn)

end Stubble
