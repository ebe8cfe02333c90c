import Stubble.Proofs.Inspection

/-!
# Data appended to a kernel image

Every read of `inspect_kernel` is bounded by a size the image declares: the DOS and PE headers,
the section table, the sections. A signing tool appends its certificate table to the end of the
file; this file proves that such appended bytes never change what `inspect_kernel` reports on an
image it accepted.
-/

namespace Stubble.Proofs

/-- A read that found all its bytes in `F` finds the same bytes once data is appended. -/
lemma take_drop_append {F : List UInt8} (G : List UInt8) {o n : Nat} (h : n ≤ F.length - o) :
    ((F ++ G).drop o).take n = (F.drop o).take n := by
  rw [List.drop_append_eq_append_drop, List.take_append_of_le_length (by simpa using h)]

/-- A check that fails with an error passed. -/
lemma ite_error_eq_ok {ε α : Type} {c : Prop} [Decidable c] {e : ε} {x : Except ε α} {a : α}
    (h : (if c then .error e else x) = .ok a) : ¬c ∧ x = .ok a := by
  by_cases hc : c
  · rw [if_pos hc] at h; cases h
  · rw [if_neg hc] at h; exact ⟨hc, h⟩

section AppendStable
variable {α β : Type}

/-- A reading of the file that, once it succeeds, succeeds with the same result on every
extension of the file. -/
def AppendStable (f : List UInt8 → Except Failure α) : Prop :=
  ∀ F G a, f F = .ok a → f (F ++ G) = .ok a

lemma AppendStable.const (x : Except Failure α) : AppendStable fun _ => x :=
  fun _ _ _ h => h

lemma AppendStable.bind {f : List UInt8 → Except Failure α}
    {g : α → List UInt8 → Except Failure β} (hf : AppendStable f) (hg : ∀ a, AppendStable (g a)) :
    AppendStable fun F => (f F).bind fun a => g a F := by
  intro F G b h
  obtain ⟨a, ha, hb⟩ := except_bind_eq_ok.mp h
  exact except_bind_eq_ok.mpr ⟨a, hf F G a ha, hg a F G b hb⟩

lemma AppendStable.map {f : List UInt8 → Except Failure α} (k : α → β) (hf : AppendStable f) :
    AppendStable fun F => k <$> f F := by
  intro F G b h
  obtain ⟨a, ha, rfl⟩ := except_map_eq_ok.mp h
  exact except_map_eq_ok.mpr ⟨a, hf F G a ha, rfl⟩

lemma AppendStable.ite (c : Prop) [Decidable c] {f g : List UInt8 → Except Failure α}
    (hf : AppendStable f) (hg : AppendStable g) : AppendStable fun F => if c then f F else g F := by
  by_cases hc : c
  · simpa only [if_pos hc] using hf
  · simpa only [if_neg hc] using hg

end AppendStable

/-- `pe_sections` reads the DOS header, then the PE header at `e_lfanew`, then the section table
it declares: once each read is complete, appended bytes are never looked at. -/
lemma peSectionsOfBytes_appendStable : AppendStable peSectionsOfBytes := by
  intro F G r h
  simp only [peSectionsOfBytes, dosFileHeader_magic, dosFileHeader_exeHeader,
    peHeader_magic, peHeader_numberOfSections, peHeader_sizeOfOptionalHeader, List.take_length,
    length_take_lt_iff _ (show sizeofDosMagic ≤ sizeofDosFileHeader by decide),
    length_take_eq_iff, items_eq_iff, not_le, ne_eq, List.drop_drop] at h ⊢
  simp only [List.length_drop, List.length_append, sizeofDosMagic, sizeofDosFileHeader,
    sizeofPeHeader, sizeofPeSectionHeader] at h ⊢
  -- the DOS magic
  obtain ⟨h1, h⟩ := ite_error_eq_ok h
  rw [if_neg (by omega), List.take_append_of_le_length (show 2 ≤ F.length by omega)]
  by_cases hmz : List.take 2 F = dosFileMagic
  swap; · rwa [if_pos hmz] at h ⊢
  rw [if_neg (not_not.mpr hmz)] at h ⊢
  -- the rest of the DOS header
  obtain ⟨h2, h⟩ := ite_error_eq_ok h
  rw [if_neg (by omega), take_drop_append G (show 4 ≤ F.length - 60 by omega)]
  generalize ofLE ((F.drop 60).take 4) = e at h ⊢
  -- the PE header
  obtain ⟨h3, h⟩ := ite_error_eq_ok h
  rw [if_neg (by omega), take_drop_append G (show 4 ≤ F.length - e by omega),
    take_drop_append G (show 2 ≤ F.length - (e + 6) by omega),
    take_drop_append G (show 2 ≤ F.length - (e + 20) by omega)]
  generalize ofLE ((F.drop (e + 6)).take 2) = n at h ⊢
  generalize ofLE ((F.drop (e + 20)).take 2) = y at h ⊢
  by_cases hpe : List.take 4 (List.drop e F) = peFileMagic
  swap; · rwa [if_pos hpe] at h ⊢
  rw [if_neg (not_not.mpr hpe)] at h ⊢
  by_cases hmax : n > maxSections
  · rwa [if_pos hmax] at h ⊢
  rw [if_neg hmax] at h ⊢
  -- the section table
  obtain ⟨h4, h⟩ := ite_error_eq_ok h
  rwa [if_neg (by omega), take_drop_append G (show 40 * n ≤ F.length - (e + 24 + y) by omega)]

/-- `read_pe_section` reads `VirtualSize` bytes at `PointerToRawData`, and fails when it gets
fewer. -/
lemma readPeSectionOf_appendStable (sections : List PeSectionHeader) (name : List UInt8) :
    AppendStable (readPeSectionOf sections name) := by
  intro F G r h
  unfold readPeSectionOf at h ⊢
  generalize findPeSection sections name = i at h ⊢
  cases i with
  | none => exact h
  | some i =>
    dsimp only at h ⊢
    obtain ⟨hbig, h⟩ := ite_error_eq_ok h
    obtain ⟨hlen, h⟩ := ite_error_eq_ok h
    simp only [List.length_take, List.length_drop] at hlen
    rwa [if_neg hbig, take_drop_append G (by omega)]

lemma ukiReadPrettyNameOf_appendStable (env : UkiEnv) (sections : List PeSectionHeader) :
    AppendStable (ukiReadPrettyNameOf env sections) :=
  (readPeSectionOf_appendStable sections nameOsrel).bind fun _ => AppendStable.const _

lemma ukiMetadataOf_appendStable (env : UkiEnv) (sections : List PeSectionHeader) (req : Request) :
    AppendStable (ukiMetadataOf env sections req) :=
  (AppendStable.ite _ ((readPeSectionOf_appendStable _ _).map _) (.const _)).bind fun _ =>
    (AppendStable.ite _ ((readPeSectionOf_appendStable _ _).map _) (.const _)).bind fun _ =>
      (AppendStable.ite _ (ukiReadPrettyNameOf_appendStable env sections) (.const _)).bind fun _ =>
        .const _

/-- What `inspect_kernel` finds, for a file system in which `filename` holds `F ++ G` and the
os-release helpers are those of `env`, is what it found with `filename` holding `F`. -/
lemma inspectKernelOf_append {env env' : UkiEnv} {filename : String} {req : Request}
    {F G : List UInt8} (hF : env.fopen filename = .ok F) (hF' : env'.fopen filename = .ok (F ++ G))
    (hm : env'.fmemopen = env.fmemopen) (hp : env'.parseEnvFile = env.parseEnvFile)
    {r : KernelType × Option UkiMetadata} (h : inspectKernelOf env filename req = .ok r) :
    inspectKernelOf env' filename req = .ok r := by
  have hmd : ukiMetadataOf env' = ukiMetadataOf env := by
    cases env
    cases env'
    simp only at hm hp
    subst hm hp
    rfl
  simp only [inspectKernelOf, hF] at h
  simp only [inspectKernelOf, hF', hmd]
  obtain ⟨s, hs, h⟩ := except_bind_eq_ok.mp h
  refine except_bind_eq_ok.mpr ⟨s, peSectionsOfBytes_appendStable F G s hs, ?_⟩
  rcases s with _ | sections
  · exact h
  · exact AppendStable.ite _ ((ukiMetadataOf_appendStable env sections req).map _) (.const _) F G r h

/-- Appending bytes to an image that `inspect_kernel` accepts (an Authenticode signature, padding)
changes neither its result nor any output it writes. -/
theorem inspectKernel_append (env env' : UkiEnv) (filename : String) (req : Request)
    (F G : List UInt8) (m : Machine) (hF : env.fopen filename = .ok F)
    (hF' : env'.fopen filename = .ok (F ++ G)) (hm : env'.fmemopen = env.fmemopen)
    (hp : env'.parseEnvFile = env.parseEnvFile)
    (hok : resultOf ((inspectKernel env filename req).run m) = .ok ()) :
    resultOf ((inspectKernel env' filename req).run m) = .ok () ∧
      (stateOf ((inspectKernel env' filename req).run m)).out =
        (stateOf ((inspectKernel env filename req).run m)).out := by
  obtain ⟨hr, ho⟩ := inspectKernel_run env filename req m
  obtain ⟨hr', ho'⟩ := inspectKernel_run env' filename req m
  rcases hi : inspectKernelOf env filename req with e | r
  · rw [hi] at hr
    rw [hr] at hok
    cases hok
  · rw [hi] at ho
    rw [inspectKernelOf_append hF hF' hm hp hi] at hr' ho'
    exact ⟨hr', ho'.trans ho.symm⟩

/-- `tinyUki` with two bytes of a signature appended. -/
def signedTinyEnv : UkiEnv :=
  ⟨fun _ => .ok (tinyUki ++ [0x30, 0x82]), fun _ => .ok (), fun _ => .ok (none, none)⟩

set_option maxRecDepth 4000 in
theorem inspectKernel_append_tinyUki :
    (tinyEnv fun _ => .ok ()).fopen "uki.efi" = .ok tinyUki ∧
    signedTinyEnv.fopen "uki.efi" = .ok (tinyUki ++ [0x30, 0x82]) ∧
    signedTinyEnv.fmemopen = (tinyEnv fun _ => .ok ()).fmemopen ∧
    signedTinyEnv.parseEnvFile = (tinyEnv fun _ => .ok ()).parseEnvFile ∧
    resultOf ((inspectKernel (tinyEnv fun _ => .ok ()) "uki.efi" ⟨true, true, true, true⟩).run
      ⟨⟨[], 0⟩, .untouched⟩) = .ok () ∧
    resultOf ((inspectKernel signedTinyEnv "uki.efi" ⟨true, true, true, true⟩).run
      ⟨⟨[], 0⟩, .untouched⟩) = .ok () ∧
    (stateOf ((inspectKernel signedTinyEnv "uki.efi" ⟨true, true, true, true⟩).run
      ⟨⟨[], 0⟩, .untouched⟩)).out =
      (stateOf ((inspectKernel (tinyEnv fun _ => .ok ()) "uki.efi" ⟨true, true, true, true⟩).run
        ⟨⟨[], 0⟩, .untouched⟩)).out := by
  have hok : resultOf ((inspectKernel (tinyEnv fun _ => .ok ()) "uki.efi"
      ⟨true, true, true, true⟩).run ⟨⟨[], 0⟩, .untouched⟩) = .ok () := by
    rfl
  exact ⟨rfl, rfl, rfl, rfl, hok, inspectKernel_append _ _ "uki.efi" _ tinyUki [0x30, 0x82] _ rfl rfl
    rfl rfl hok⟩

end Stubble.Proofs
