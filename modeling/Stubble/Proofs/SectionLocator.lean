import Stubble.Inspect

/-!
# Locating, reading and classifying sections

The kernel type `inspect_kernel` reports, as a decision list over the bytes of the file, and what
`read_pe_section` returns for any section table and needle.
-/

namespace Stubble.Proofs

/-- The kernel type `inspect_kernel` reports for a file with no metadata requested, read off the
file's bytes: the checks of `pe_sections` in order, then the three names `is_uki` looks for among
the `Name` fields of the section records. -/
def kernelTypeOf (F : List UInt8) : Except Errno KernelType :=
  if F.length < sizeofDosMagic then .error Errno.EIO
  else if F.take 2 ≠ dosFileMagic then .ok .unknown
  else if F.length < sizeofDosFileHeader then .error Errno.EIO
  else
    let e := ofLE ((F.drop 60).take 4)
    if (F.drop e).length < sizeofPeHeader then .error Errno.EIO
    else if (F.drop e).take 4 ≠ peFileMagic then .ok .unknown
    else
      let n := ofLE ((F.drop (e + 6)).take 2)
      let s := e + sizeofPeHeader + ofLE ((F.drop (e + 20)).take 2)
      if n > maxSections then .ok .unknown
      else if (F.drop s).length < sizeofPeSectionHeader * n then .error Errno.EIO
      else
        let names := (List.range n).map fun i => (F.drop (s + sizeofPeSectionHeader * i)).take 8
        .ok (if nameOsrel ∈ names ∧ nameLinux ∈ names ∧ nameInitrd ∈ names then .uki else .pe)

lemma length_take_lt_iff (l : List UInt8) {k n : Nat} (h : k ≤ n) :
    (l.take n).length < k ↔ l.length < k := by
  simp only [List.length_take]
  omega

lemma length_take_eq_iff (l : List UInt8) (n : Nat) : (l.take n).length = n ↔ n ≤ l.length := by
  simp only [List.length_take]
  omega

lemma items_eq_iff (l : List UInt8) (n : Nat) :
    (l.take (sizeofPeSectionHeader * n)).length / sizeofPeSectionHeader = n ↔
      sizeofPeSectionHeader * n ≤ l.length := by
  simp only [List.length_take, sizeofPeSectionHeader]
  omega

/-- The kernel type `inspect_kernel` reports once `pe_sections` has returned. -/
def classify : Except Failure (Option (List PeSectionHeader)) → Except Errno KernelType
  | .error f => .error f.errno
  | .ok none => .ok .unknown
  | .ok (some sections) => .ok (if isUki sections then .uki else .pe)

@[simp] lemma classify_error (f : Failure) : classify (.error f) = .error f.errno := rfl
@[simp] lemma classify_none : classify (.ok none) = .ok .unknown := rfl
@[simp] lemma classify_some (sections : List PeSectionHeader) :
    classify (.ok (some sections)) = .ok (if isUki sections then .uki else .pe) := rfl

lemma kernelTypeOf_eq_classify (F : List UInt8) : kernelTypeOf F = classify (peSectionsOfBytes F) := by
  simp only [peSectionsOfBytes, kernelTypeOf, dosFileHeader_magic, dosFileHeader_exeHeader,
    peHeader_magic, peHeader_numberOfSections, peHeader_sizeOfOptionalHeader, List.take_length,
    length_take_lt_iff F (show sizeofDosMagic ≤ sizeofDosFileHeader by decide),
    length_take_eq_iff, items_eq_iff, not_le, ne_eq, List.drop_drop, apply_ite classify,
    classify_error, classify_none, classify_some, logErrorErrno, decodeSections_take, isUki_iff, names_decodeSections]

/-! ## A smallest UKI -/

/-- The little-endian bytes of a 32-bit field. -/
def le32 (n : Nat) : List UInt8 :=
  [n.toUInt8, (n / 2 ^ 8).toUInt8, (n / 2 ^ 16).toUInt8, (n / 2 ^ 24).toUInt8]

/-- A section header with the given `Name`, `VirtualSize` and `PointerToRawData`, its other fields
zero. -/
def sectionRecord (name : String) (size offset : Nat) : List UInt8 :=
  charArray 8 name ++ le32 size ++ List.replicate 8 0 ++ le32 offset ++ List.replicate 16 0

/-- A smallest UKI: a DOS header pointing at the PE header right after it, no optional header, and
empty `.osrel`, `.linux` and `.initrd` sections. -/
def tinyUki : List UInt8 :=
  [0x4d, 0x5a] ++ List.replicate 58 0 ++ le32 64 ++ [0x50, 0x45, 0, 0, 0, 0, 3, 0] ++
    List.replicate 16 0 ++ sectionRecord ".osrel" 0 0 ++ sectionRecord ".linux" 0 0 ++
    sectionRecord ".initrd" 0 0

/-- The section table of `tinyUki`. -/
def tinySections : List PeSectionHeader :=
  [⟨nameOsrel, 0, 0⟩, ⟨nameLinux, 0, 0⟩, ⟨nameInitrd, 0, 0⟩]

/-- The collaborators of `inspect_kernel` on `tinyUki`: the file opens, `fmemopen` is given, and
the os-release parser finds neither key. -/
def tinyEnv (fmemopen : List UInt8 → Except Errno Unit) : UkiEnv :=
  ⟨fun _ => .ok tinyUki, fmemopen, fun _ => .ok (none, none)⟩

set_option maxRecDepth 4000 in
lemma peSectionsOfBytes_tinyUki : peSectionsOfBytes tinyUki = .ok (some tinySections) := by
  rfl

/-! ## The kernel type -/

/-- With only the type requested, `inspect_kernel` fails with the `errno` of the decision list
or succeeds and writes the type it names; and `pe_sections` never returns more than
`MAX_SECTIONS` headers, wherever the stream stands. -/
theorem inspectKernel_kernelType (env : UkiEnv) (filename : String) (F : List UInt8)
    (hF : env.fopen filename = .ok F) (m : Machine) :
    (match kernelTypeOf F with
      | .error e => ∃ msg, resultOf ((inspectKernel env filename ⟨true, false, false, false⟩).run m) =
          .error ⟨e, msg⟩
      | .ok t => resultOf ((inspectKernel env filename ⟨true, false, false, false⟩).run m) = .ok () ∧
          (stateOf ((inspectKernel env filename ⟨true, false, false, false⟩).run m)).out.type =
            some t) ∧
    ∀ m' sections, resultOf (peSections.run m') = .ok (some sections) →
      sections.length ≤ maxSections := by
  refine ⟨?_, peSections_length_le⟩
  obtain ⟨hr, ho⟩ := inspectKernel_run env filename ⟨true, false, false, false⟩ m
  simp only [inspectKernelOf, hF] at hr ho
  rw [kernelTypeOf_eq_classify]
  rcases hp : peSectionsOfBytes F with f | _ | sections
  · simp only [hp, Except.bind] at hr
    exact ⟨f.message, hr⟩
  · simp only [hp, Except.bind] at hr ho
    exact ⟨hr, by rw [ho]; rfl⟩
  · cases hu : isUki sections <;>
      simp only [hp, hu, classify_some, Except.bind, Bool.false_eq_true, ↓reduceIte] at hr ho ⊢ <;>
      exact ⟨hr, by rw [ho]; rfl⟩

set_option maxRecDepth 4000 in
theorem inspectKernel_kernelType_tinyUki :
    (tinyEnv fun _ => .ok ()).fopen "uki.efi" = .ok tinyUki ∧ kernelTypeOf tinyUki = .ok .uki ∧
    (match kernelTypeOf tinyUki with
      | .error e => ∃ msg, resultOf ((inspectKernel (tinyEnv fun _ => .ok ()) "uki.efi"
          ⟨true, false, false, false⟩).run ⟨⟨[], 0⟩, .untouched⟩) = .error ⟨e, msg⟩
      | .ok t => resultOf ((inspectKernel (tinyEnv fun _ => .ok ()) "uki.efi"
          ⟨true, false, false, false⟩).run ⟨⟨[], 0⟩, .untouched⟩) = .ok () ∧
        (stateOf ((inspectKernel (tinyEnv fun _ => .ok ()) "uki.efi"
          ⟨true, false, false, false⟩).run ⟨⟨[], 0⟩, .untouched⟩)).out.type = some t) ∧
    ∀ m' sections, resultOf (peSections.run m') = .ok (some sections) →
      sections.length ≤ maxSections :=
  ⟨rfl, by rw [kernelTypeOf_eq_classify, peSectionsOfBytes_tinyUki, classify_some,
      if_pos (show isUki tinySections by decide)],
    inspectKernel_kernelType _ "uki.efi" tinyUki rfl _⟩

lemma min_ne_self_iff (a b : Nat) : min a b ≠ a ↔ b < a := by omega

/-- `read_pe_section` on a table `T`: NULL exactly when no entry's `Name` equals the needle;
otherwise the first entry that does decides between `E2BIG`, an I/O error and its bytes followed
by the safety NUL. -/
theorem readPeSection_result (T : List PeSectionHeader) (needle : List UInt8) (m : Machine) :
    (resultOf ((readPeSection T needle).run m) = .ok none ↔ ∀ s ∈ T, s.name ≠ needle) ∧
    ∀ i (hi : i < T.length), T[i].name = needle → (∀ s ∈ T.take i, s.name ≠ needle) →
      ((∃ msg, resultOf ((readPeSection T needle).run m) = .error ⟨Errno.E2BIG, msg⟩) ↔
        16 * 1024 < T[i].virtualSize) ∧
      (T[i].virtualSize ≤ 16 * 1024 →
        ((∃ msg, resultOf ((readPeSection T needle).run m) = .error ⟨Errno.EIO, msg⟩) ↔
          (m.uki.data.drop T[i].pointerToRawData).length < T[i].virtualSize)) ∧
      (T[i].virtualSize ≤ 16 * 1024 →
        T[i].virtualSize ≤ (m.uki.data.drop T[i].pointerToRawData).length →
        resultOf ((readPeSection T needle).run m) =
          .ok (some ((m.uki.data.drop T[i].pointerToRawData).take T[i].virtualSize ++ [0],
            T[i].virtualSize))) := by
  obtain ⟨hr, -, -⟩ := readPeSection_readsAs T needle m
  rw [hr]
  refine ⟨?_, fun i hi hname hfirst => ?_⟩
  · have hnone : findPeSection T needle = none ↔ ∀ s ∈ T, s.name ≠ needle := by
      simp [findPeSection_eq_none_iff]
    rw [← hnone, readPeSectionOf]
    cases findPeSection T needle with
    | none => simp
    | some idx =>
      simp only [reduceCtorEq, iff_false]
      split_ifs <;> simp
  · have hfind : findPeSection T needle = some i := by
      refine List.findIdx?_eq_some_iff_getElem.mpr ⟨hi, by simpa using hname, fun j hj => ?_⟩
      have hmem : T[j] ∈ T.take i := List.mem_take_iff_getElem.mpr ⟨j, by omega, rfl⟩
      simpa using hfirst _ hmem
    simp only [readPeSectionOf, hfind, List.getD_eq_getElem?_getD, List.getElem?_eq_getElem hi,
      Option.getD_some, List.length_take, min_ne_self_iff, gt_iff_lt]
    refine ⟨?_, fun hv => ?_, fun hv hl => ?_⟩ <;> split_ifs <;>
      (try simp [logErrorErrno, Errno.EIO, Errno.E2BIG, -List.length_drop]) <;> omega

end Stubble.Proofs
