import Stubble.PeSections

/-!
# Inspecting a kernel image

The section reader and classifier of `bootctl-uki.c` on top of `pe_sections`: `find_pe_section`,
`is_uki`, `read_pe_section`, `uki_read_pretty_name`, `inspect_uki` and `inspect_kernel`. The file
system, `fmemopen` and the os-release parser `parse_env_file` are not under src/ and stay
parameters.
-/

namespace Stubble

/-- The bytes of `uint8_t x[n] = "s"` for an ASCII `s`: its characters, NUL-padded or cut to `n`. -/
def charArray (n : Nat) (s : String) : List UInt8 :=
  (s.toList.map (fun c : Char => c.toNat.toUInt8) ++ List.replicate n 0).take n

def nameOsrel : List UInt8 := charArray 8 ".osrel"
def nameLinux : List UInt8 := charArray 8 ".linux"
def nameInitrd : List UInt8 := charArray 8 ".initrd"
def nameCmdline : List UInt8 := charArray 8 ".cmdline"
def nameUname : List UInt8 := charArray 8 ".uname"

/-- `find_pe_section`: the index of the first entry whose `Name` compares equal to `name` under
`memcmp_nn`. -/
def findPeSection (sections : List PeSectionHeader) (name : List UInt8) : Option Nat :=
  sections.findIdx? fun s => memcmpNn s.name name = .eq

/-- `is_uki`: the table names all three of `.osrel`, `.linux` and `.initrd`. -/
def isUki (sections : List PeSectionHeader) : Bool :=
  (findPeSection sections nameOsrel).isSome && (findPeSection sections nameLinux).isSome &&
    (findPeSection sections nameInitrd).isSome

lemma findPeSection_isSome_iff (sections : List PeSectionHeader) (name : List UInt8) :
    (findPeSection sections name).isSome ↔ name ∈ sections.map PeSectionHeader.name := by
  simp only [findPeSection, List.findIdx?_isSome, List.any_eq_true, decide_eq_true_eq,
    memcmpNn_eq_iff, List.mem_map]

lemma findPeSection_eq_none_iff (sections : List PeSectionHeader) (name : List UInt8) :
    findPeSection sections name = none ↔ name ∉ sections.map PeSectionHeader.name := by
  rw [← findPeSection_isSome_iff, Option.not_isSome_iff_eq_none]

lemma isUki_iff (sections : List PeSectionHeader) :
    isUki sections ↔ nameOsrel ∈ sections.map PeSectionHeader.name ∧
      nameLinux ∈ sections.map PeSectionHeader.name ∧ nameInitrd ∈ sections.map PeSectionHeader.name := by
  simp only [isUki, Bool.and_eq_true, findPeSection_isSome_iff, and_assoc]

/-- The `Name` fields of a decoded table are the 8-byte slices at the start of each record. -/
lemma names_decodeSections (n : Nat) (raw : List UInt8) :
    (decodeSections n raw).map PeSectionHeader.name =
      (List.range n).map fun i => (raw.drop (sizeofPeSectionHeader * i)).take 8 := by
  induction n generalizing raw with
  | zero => rfl
  | succ n ih =>
    simp only [decodeSections, List.map_cons, ih, List.range_succ_eq_map, List.map_map,
      PeSectionHeader.decode, List.drop_drop]
    congr 2
    funext i
    congr 2
    simp only [sizeofPeSectionHeader, Function.comp_apply, Nat.succ_eq_add_one]
    ring

instance : Inhabited PeSectionHeader := ⟨⟨[], 0, 0⟩⟩

/-- `read_pe_section`: `none` when no entry is named `name` (the function returns 0 with
`*ret = NULL`), else the section's bytes followed by the safety NUL, and its size (`*ret_n`). -/
def readPeSection (sections : List PeSectionHeader) (name : List UInt8) :
    UkiM (Option (List UInt8 × Nat)) := do
  match findPeSection sections name with
  | none => return none
  | some idx =>
    let sec := sections.getD idx default
    let soff := sec.pointerToRawData
    let size := sec.virtualSize
    if size > 16 * 1024 then
      throw (logErrorErrno Errno.E2BIG "PE section too big")
    fseek soff
    let (bytes, data) ← fread 1 size
    if bytes ≠ size then
      throw (logErrorErrno Errno.EIO "PE section read error")
    return some (data ++ [0], size)

/-- What `inspect_kernel` gets from outside src/: the bytes of the file `fopen` opens, and the
outcome of `fmemopen` and of `parse_env_file` on the os-release section; the parser yields the
`PRETTY_NAME` and `NAME` values, NULL when absent. -/
structure UkiEnv where
  fopen : String → Except Errno (List UInt8)
  fmemopen : List UInt8 → Except Errno Unit
  parseEnvFile : List UInt8 → Except Errno (Option String × Option String)

/-- `isempty`: NULL, or a string whose first byte is the terminating NUL. -/
def isempty : Option String → Bool
  | none => true
  | some s => s == ""

variable (env : UkiEnv)

/-- `uki_read_pretty_name`: the display name from the `.osrel` section, `none` (NULL) when there is
no such section. -/
def ukiReadPrettyName (sections : List PeSectionHeader) : UkiM (Option String) := do
  match ← readPeSection sections nameOsrel with
  | none => return none
  | some (osrel, osrelSize) =>
    match env.fmemopen (osrel.take osrelSize) with
    | .error e =>
      throw (logWarningErrno e "Failed to open embedded os-release file, ignoring: %m")
    | .ok () =>
      match env.parseEnvFile (osrel.take osrelSize) with
      | .error e =>
        throw (logWarningErrno e "Failed to parse embedded os-release file, ignoring: %m")
      | .ok (pname, name) =>
        if !isempty pname then return pname
        else if !isempty name then return name
        else return some "Linux"

/-- Which output pointers of `inspect_kernel` are non-NULL. -/
structure Request where
  type : Bool
  cmdline : Bool
  uname : Bool
  prettyName : Bool
  deriving DecidableEq, Repr

/-- A read made only when its output pointer is non-NULL; the local stays NULL otherwise. -/
def readIf {α : Type} (requested : Bool) (x : UkiM (Option α)) : UkiM (Option α) :=
  if requested then x else pure none

/-- `inspect_uki`: reads every requested piece first and writes the outputs only afterwards. -/
def inspectUki (sections : List PeSectionHeader) (req : Request) : UkiM Unit := do
  let cmdline ← readIf req.cmdline (Option.map Prod.fst <$> readPeSection sections nameCmdline)
  let uname ← readIf req.uname (Option.map Prod.fst <$> readPeSection sections nameUname)
  let pname ← readIf req.prettyName (ukiReadPrettyName env sections)
  if req.cmdline then modify fun m => { m with out := { m.out with cmdline := some cmdline } }
  if req.uname then modify fun m => { m with out := { m.out with uname := some uname } }
  if req.prettyName then modify fun m => { m with out := { m.out with prettyName := some pname } }

/-- `inspect_kernel`: opens the file, classifies it, reads the metadata of a UKI and writes the
type last. -/
def inspectKernel (filename : String) (req : Request) : UkiM Unit := do
  match env.fopen filename with
  | .error e => throw (logErrorErrno e ("Failed to open UKI file '" ++ filename ++ "': %m"))
  | .ok data =>
    modify fun m => { m with uki := ⟨data, 0⟩ }
    let t ← match ← peSections with
      | none => pure KernelType.unknown
      | some sections =>
        if isUki sections then do
          inspectUki env sections req
          pure KernelType.uki
        else pure KernelType.pe
    if req.type then modify fun m => { m with out := { m.out with type := some t } }

/-! ## The inspection as a function of the file -/

section ReadsAs
variable {α β : Type}

/-- `x` only reads the UKI stream: whatever the stream position it returns `spec` of the file's
bytes, and it leaves the file and the caller's outputs as they were. -/
def ReadsAs (x : UkiM α) (spec : List UInt8 → Except Failure α) : Prop :=
  ∀ m, resultOf (x.run m) = spec m.uki.data ∧ (stateOf (x.run m)).out = m.out ∧
    (stateOf (x.run m)).uki.data = m.uki.data

lemma ReadsAs.pure (a : α) : ReadsAs (pure a) (fun _ => .ok a) := fun _ => ⟨rfl, rfl, rfl⟩

lemma ReadsAs.throw (e : Failure) : ReadsAs (throw e : UkiM α) (fun _ => .error e) :=
  fun _ => ⟨rfl, rfl, rfl⟩

lemma ReadsAs.bind {x : UkiM α} {f : α → UkiM β} {s : List UInt8 → Except Failure α}
    {t : α → List UInt8 → Except Failure β} (hx : ReadsAs x s) (hf : ∀ a, ReadsAs (f a) (t a)) :
    ReadsAs (x >>= f) (fun F => (s F).bind fun a => t a F) := by
  intro m
  obtain ⟨hr, ho, hd⟩ := hx m
  rw [run_bind]
  cases h : x.run m with
  | ok a m' =>
    simp only [h, resultOf_ok, stateOf_ok] at hr ho hd
    obtain ⟨hr', ho', hd'⟩ := hf a m'
    exact ⟨by simp only [hr', hd, ← hr, Except.bind], ho'.trans ho, hd'.trans hd⟩
  | error e m' =>
    simp only [h, resultOf_error, stateOf_error] at hr ho hd
    exact ⟨by simp only [resultOf_error, ← hr, Except.bind], ho, hd⟩

lemma ReadsAs.map {x : UkiM α} {s : List UInt8 → Except Failure α} (f : α → β)
    (hx : ReadsAs x s) : ReadsAs (f <$> x) (fun F => f <$> s F) := by
  rw [map_eq_pure_bind]
  intro m
  obtain ⟨hr, ho, hd⟩ := (hx.bind fun a => ReadsAs.pure (f a)) m
  refine ⟨?_, ho, hd⟩
  rw [hr]
  cases s m.uki.data <;> rfl

lemma ReadsAs.readIf {x : UkiM (Option α)} {s : List UInt8 → Except Failure (Option α)}
    (hx : ReadsAs x s) (requested : Bool) :
    ReadsAs (readIf requested x) (fun F => if requested then s F else .ok none) := by
  cases requested
  exacts [ReadsAs.pure none, hx]

/-- The outputs once a read phase with result `r` is followed by the writes `g`: written when the
reads succeeded, as they were otherwise. -/
def writtenIf (r : Except Failure α) (g : α → Outputs → Outputs) (o : Outputs) : Outputs :=
  match r with
  | .ok a => g a o
  | .error _ => o

/-- A read phase followed by a phase that only writes outputs. -/
lemma ReadsAs.run_bind_writes {x : UkiM α} {s : List UInt8 → Except Failure α} {w : α → UkiM Unit}
    {g : α → Outputs → Outputs} (hx : ReadsAs x s)
    (hw : ∀ a m, (w a).run m = .ok () { m with out := g a m.out }) (m : Machine) :
    resultOf ((x >>= w).run m) = (fun _ => ()) <$> s m.uki.data ∧
      (stateOf ((x >>= w).run m)).out = writtenIf (s m.uki.data) g m.out := by
  obtain ⟨hr, ho, _⟩ := hx m
  rw [run_bind]
  cases h : x.run m with
  | ok a m' =>
    simp only [h, resultOf_ok, stateOf_ok] at hr ho
    exact ⟨by simp only [hw, resultOf_ok, ← hr]; rfl, by simp only [hw, stateOf_ok, ← hr, ho]; rfl⟩
  | error e m' =>
    simp only [h, resultOf_error, stateOf_error] at hr ho
    exact ⟨by simp only [resultOf_error, ← hr]; rfl, by simp only [stateOf_error, ← hr, ho]; rfl⟩

end ReadsAs

/-- `read_pe_section` as a function of the file's bytes. -/
def readPeSectionOf (sections : List PeSectionHeader) (name : List UInt8) (F : List UInt8) :
    Except Failure (Option (List UInt8 × Nat)) :=
  match findPeSection sections name with
  | none => .ok none
  | some idx =>
    let sec := sections.getD idx default
    if sec.virtualSize > 16 * 1024 then .error (logErrorErrno Errno.E2BIG "PE section too big")
    else
      let data := (F.drop sec.pointerToRawData).take sec.virtualSize
      if data.length ≠ sec.virtualSize then .error (logErrorErrno Errno.EIO "PE section read error")
      else .ok (some (data ++ [0], sec.virtualSize))

theorem readPeSection_readsAs (sections : List PeSectionHeader) (name : List UInt8) :
    ReadsAs (readPeSection sections name) (readPeSectionOf sections name) := by
  intro m
  simp only [readPeSection, readPeSectionOf]
  cases findPeSection sections name with
  | none => exact ⟨rfl, rfl, rfl⟩
  | some idx =>
    simp only [run_bind, run_ite, run_throw, run_pure, run_fseek, run_fread, FileStream.fread,
      FileStream.fseek, FileStream.avail, one_mul, Nat.div_one, ne_eq]
    split_ifs <;> simp_all

/-- What `uki_read_pretty_name` makes of the bytes of the os-release section. -/
def prettyNameOf (osrel : List UInt8) : Except Failure (Option String) :=
  match env.fmemopen osrel with
  | .error e => .error (logWarningErrno e "Failed to open embedded os-release file, ignoring: %m")
  | .ok () =>
    match env.parseEnvFile osrel with
    | .error e => .error (logWarningErrno e "Failed to parse embedded os-release file, ignoring: %m")
    | .ok (pname, name) =>
      .ok (if !isempty pname then pname else if !isempty name then name else some "Linux")

/-- `uki_read_pretty_name` as a function of the file's bytes. -/
def ukiReadPrettyNameOf (sections : List PeSectionHeader) (F : List UInt8) :
    Except Failure (Option String) :=
  (readPeSectionOf sections nameOsrel F).bind fun
    | none => .ok none
    | some (osrel, osrelSize) => prettyNameOf env (osrel.take osrelSize)

theorem ukiReadPrettyName_readsAs (sections : List PeSectionHeader) :
    ReadsAs (ukiReadPrettyName env sections) (ukiReadPrettyNameOf env sections) := by
  refine (readPeSection_readsAs sections nameOsrel).bind fun r => ?_
  rcases r with _ | ⟨osrel, osrelSize⟩
  · exact ReadsAs.pure none
  · simp only [prettyNameOf]
    rcases env.fmemopen (osrel.take osrelSize) with e | ⟨⟩
    · exact ReadsAs.throw _
    · rcases env.parseEnvFile (osrel.take osrelSize) with e | ⟨pname, name⟩
      · exact ReadsAs.throw _
      · dsimp only
        split_ifs
        all_goals exact ReadsAs.pure _

/-- The pieces `inspect_uki` reads: command line, `uname` and display name, `none` when not
requested or NULL. -/
structure UkiMetadata where
  cmdline : Option (List UInt8)
  uname : Option (List UInt8)
  prettyName : Option String

/-- Everything `inspect_uki` reads, before it writes any output. -/
def ukiMetadataOf (sections : List PeSectionHeader) (req : Request) (F : List UInt8) :
    Except Failure UkiMetadata :=
  (if req.cmdline then Option.map Prod.fst <$> readPeSectionOf sections nameCmdline F
    else .ok none).bind fun cmdline =>
  (if req.uname then Option.map Prod.fst <$> readPeSectionOf sections nameUname F
    else .ok none).bind fun uname =>
  (if req.prettyName then ukiReadPrettyNameOf env sections F else .ok none).bind fun pname =>
  .ok ⟨cmdline, uname, pname⟩

/-- The outputs `inspect_uki` writes: the requested ones. -/
def Outputs.withUki (req : Request) (md : UkiMetadata) (o : Outputs) : Outputs :=
  { o with
    cmdline := if req.cmdline then some md.cmdline else o.cmdline
    uname := if req.uname then some md.uname else o.uname
    prettyName := if req.prettyName then some md.prettyName else o.prettyName }

/-- The read phase of `inspect_uki`. -/
def ukiReads (sections : List PeSectionHeader) (req : Request) : UkiM UkiMetadata := do
  let cmdline ← readIf req.cmdline (Option.map Prod.fst <$> readPeSection sections nameCmdline)
  let uname ← readIf req.uname (Option.map Prod.fst <$> readPeSection sections nameUname)
  let pname ← readIf req.prettyName (ukiReadPrettyName env sections)
  return ⟨cmdline, uname, pname⟩

/-- The write phase of `inspect_uki`. -/
def ukiWrites (req : Request) (md : UkiMetadata) : UkiM Unit := do
  if req.cmdline then modify fun m => { m with out := { m.out with cmdline := some md.cmdline } }
  if req.uname then modify fun m => { m with out := { m.out with uname := some md.uname } }
  if req.prettyName then
    modify fun m => { m with out := { m.out with prettyName := some md.prettyName } }

lemma inspectUki_eq (sections : List PeSectionHeader) (req : Request) :
    inspectUki env sections req = ukiReads env sections req >>= ukiWrites req := by
  simp only [inspectUki, ukiReads, ukiWrites, bind_assoc, pure_bind]

lemma ukiReads_readsAs (sections : List PeSectionHeader) (req : Request) :
    ReadsAs (ukiReads env sections req) (ukiMetadataOf env sections req) := by
  exact ((readPeSection_readsAs _ _).map _).readIf req.cmdline |>.bind fun _ =>
    ((readPeSection_readsAs _ _).map _).readIf req.uname |>.bind fun _ =>
    (ukiReadPrettyName_readsAs env sections).readIf req.prettyName |>.bind fun _ =>
    ReadsAs.pure _

lemma ukiWrites_run (req : Request) (md : UkiMetadata) (m : Machine) :
    (ukiWrites req md).run m = .ok () { m with out := m.out.withUki req md } := by
  obtain ⟨t, c, u, p⟩ := req
  cases c <;> cases u <;> cases p <;> rfl

theorem inspectUki_run (sections : List PeSectionHeader) (req : Request) (m : Machine) :
    resultOf ((inspectUki env sections req).run m) =
        (fun _ => ()) <$> ukiMetadataOf env sections req m.uki.data ∧
      (stateOf ((inspectUki env sections req).run m)).out =
        writtenIf (ukiMetadataOf env sections req m.uki.data) (Outputs.withUki req) m.out := by
  rw [inspectUki_eq]
  exact (ukiReads_readsAs env sections req).run_bind_writes (ukiWrites_run req) m

/-- What `inspect_kernel` finds before it writes any output: the kernel type, and for a UKI what
`inspect_uki` read. -/
def inspectKernelOf (filename : String) (req : Request) :
    Except Failure (KernelType × Option UkiMetadata) :=
  match env.fopen filename with
  | .error e => .error (logErrorErrno e ("Failed to open UKI file '" ++ filename ++ "': %m"))
  | .ok F =>
    (peSectionsOfBytes F).bind fun
      | none => .ok (.unknown, none)
      | some sections =>
        if isUki sections then (fun md => (.uki, some md)) <$> ukiMetadataOf env sections req F
        else .ok (.pe, none)

/-- The outputs `inspect_kernel` writes once it has read everything: the metadata of a UKI, then
the type. -/
def Outputs.afterInspect (req : Request) (r : KernelType × Option UkiMetadata) (o : Outputs) :
    Outputs :=
  let o := match r.2 with
    | some md => o.withUki req md
    | none => o
  if req.type then { o with type := some r.1 } else o

lemma run_writeType (b : Bool) (t : KernelType) (m : Machine) :
    (if b = true then modify fun m => { m with out := { m.out with type := some t } }
      else pure PUnit.unit : UkiM Unit).run m =
      .ok () { m with out := if b then { m.out with type := some t } else m.out } := by
  cases b <;> rfl

theorem inspectKernel_run (filename : String) (req : Request) (m : Machine) :
    resultOf ((inspectKernel env filename req).run m) =
        (fun _ => ()) <$> inspectKernelOf env filename req ∧
      (stateOf ((inspectKernel env filename req).run m)).out =
        writtenIf (inspectKernelOf env filename req) (Outputs.afterInspect req) m.out := by
  simp only [inspectKernel, inspectKernelOf]
  cases env.fopen filename with
  | error e => exact ⟨rfl, rfl⟩
  | ok F =>
    obtain ⟨hr, ho, hd⟩ := peSections_run { m with uki := ⟨F, 0⟩ } rfl
    simp only [run_bind, run_modify]
    cases h : peSections.run { m with uki := ⟨F, 0⟩ } with
    | error e m₂ =>
      simp only [h, resultOf_error, stateOf_error] at hr ho
      simp only [← hr]
      exact ⟨rfl, ho⟩
    | ok r m₂ =>
      simp only [h, resultOf_ok, stateOf_ok] at hr ho hd
      simp only [← hr]
      rcases r with _ | sections
      · simp only [pure_bind, run_writeType, resultOf_ok, stateOf_ok]
        exact ⟨rfl, by simp only [ho]; rfl⟩
      · cases hu : isUki sections
        · simp only [hu, Bool.false_eq_true, if_false, Except.bind, pure_bind, run_writeType,
            resultOf_ok, stateOf_ok]
          exact ⟨rfl, by simp only [ho]; rfl⟩
        · obtain ⟨hr', ho'⟩ := inspectUki_run env sections req m₂
          simp only [hu, if_true, run_bind, pure_bind, run_writeType]
          simp only [hd] at hr' ho'
          simp only [Except.bind, hu, if_true]
          cases h' : (inspectUki env sections req).run m₂ <;>
            cases hm : ukiMetadataOf env sections req F <;>
            simp only [h', hm, resultOf_error, resultOf_ok, stateOf_error, stateOf_ok] at hr' ho' ⊢ <;>
            cases hr'
          · exact ⟨rfl, by rw [ho', ho]; rfl⟩
          · exact ⟨rfl, by rw [ho', ho]; rfl⟩

end Stubble
