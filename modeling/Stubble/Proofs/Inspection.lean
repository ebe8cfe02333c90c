import Stubble.Proofs.SectionLocator

/-!
# What `inspect_kernel` writes

The outputs of `inspect_kernel` for every file and every set of requested outputs, the display
name it reports for a UKI, and what a failing os-release reader does to the whole inspection.
-/

namespace Stubble.Proofs

/-- The bytes of the first section named `name`, `none` when the table has no such entry. -/
def sectionBytes (sections : List PeSectionHeader) (name F : List UInt8) : Option (List UInt8) :=
  (findPeSection sections name).map fun i =>
    (F.drop (sections.getD i default).pointerToRawData).take (sections.getD i default).virtualSize

/-- The first section named `name`, if there is one, holds at most 16 KiB and lies within the
file. -/
def SectionFits (sections : List PeSectionHeader) (name F : List UInt8) : Prop :=
  ∀ i, findPeSection sections name = some i →
    (sections.getD i default).virtualSize ≤ 16 * 1024 ∧
      (sections.getD i default).pointerToRawData + (sections.getD i default).virtualSize ≤ F.length

/-- The os-release display name: `PRETTY_NAME` when set and non-empty, else `NAME` when set and
non-empty, else `"Linux"`. -/
def preferredName (pname name : Option String) : String :=
  (pname.filter (· != "")).getD ((name.filter (· != "")).getD "Linux")

lemma preferredName_ne_empty (pname name : Option String) : preferredName pname name ≠ "" := by
  rcases pname with _ | p <;> rcases name with _ | n <;>
    simp [preferredName, Option.filter] <;> split_ifs <;> simp_all

/-- The choice at the end of `uki_read_pretty_name` is the os-release display name. -/
lemma prettyName_choice (pname name : Option String) :
    (if !isempty pname then pname else if !isempty name then name else some "Linux") =
      some (preferredName pname name) := by
  rcases pname with _ | p <;> rcases name with _ | n <;>
    simp [isempty, preferredName, Option.filter] <;> split_ifs <;> simp_all

/-- A successful `read_pe_section` is NULL exactly when the table has no entry of that name. -/
lemma readPeSectionOf_eq_ok_none_iff {sections : List PeSectionHeader} {name F : List UInt8}
    {r : Option (List UInt8 × Nat)} (h : readPeSectionOf sections name F = .ok r) :
    r = none ↔ name ∉ sections.map PeSectionHeader.name := by
  rw [← findPeSection_eq_none_iff]
  unfold readPeSectionOf at h
  cases hi : findPeSection sections name with
  | none => simpa [hi] using h.symm
  | some i =>
    simp only [hi] at h
    split_ifs at h
    cases h
    simp

/-- A non-NULL `read_pe_section` result is the first such section's bytes and the safety NUL. -/
lemma readPeSectionOf_eq_ok_some {sections : List PeSectionHeader} {name F d : List UInt8}
    {n : Nat} (h : readPeSectionOf sections name F = .ok (some (d, n))) :
    ∃ b, sectionBytes sections name F = some b ∧ d = b ++ [0] ∧ n = b.length := by
  unfold readPeSectionOf at h
  unfold sectionBytes
  cases hi : findPeSection sections name with
  | none => simp [hi] at h
  | some i =>
    simp only [hi] at h
    split_ifs at h with h₁ h₂
    simp only [Except.ok.injEq, Option.some.injEq, Prod.mk.injEq] at h
    obtain ⟨rfl, rfl⟩ := h
    exact ⟨_, rfl, rfl, (not_not.mp h₂).symm⟩

lemma readPeSectionOf_of_fits {sections : List PeSectionHeader} {name F : List UInt8}
    (h : SectionFits sections name F) :
    readPeSectionOf sections name F =
      .ok ((sectionBytes sections name F).map fun b => (b ++ [0], b.length)) := by
  unfold readPeSectionOf sectionBytes
  cases hi : findPeSection sections name with
  | none => rfl
  | some i =>
    obtain ⟨hv, hp⟩ := h i hi
    have hlen : ((F.drop (sections.getD i default).pointerToRawData).take
        (sections.getD i default).virtualSize).length = (sections.getD i default).virtualSize := by
      simp only [List.length_take, List.length_drop]
      omega
    simp only [gt_iff_lt, hlen, Option.map_some']
    rw [if_neg (by omega), if_neg (by simp)]

variable (env : UkiEnv)

/-- `uki_read_pretty_name` succeeds on the os-release bytes exactly when `fmemopen` and the parser
do, and then reports the os-release display name. -/
lemma prettyNameOf_eq_ok_iff (osrel : List UInt8) (p : Option String) :
    prettyNameOf env osrel = .ok p ↔ env.fmemopen osrel = .ok () ∧
      ∃ pname name, env.parseEnvFile osrel = .ok (pname, name) ∧
        p = some (preferredName pname name) := by
  unfold prettyNameOf
  rcases env.fmemopen osrel with e | ⟨⟩
  · simp
  · rcases env.parseEnvFile osrel with e | ⟨pname, name⟩
    · simp
    · simp only [prettyName_choice, Except.ok.injEq, true_and]
      constructor
      · rintro rfl
        exact ⟨pname, name, rfl, rfl⟩
      · rintro ⟨_, _, ⟨⟩, rfl⟩
        rfl

/-- In a table that has an `.osrel` entry, `uki_read_pretty_name` runs the reader on the bytes of
the first one. -/
lemma ukiReadPrettyNameOf_of_bytes {sections : List PeSectionHeader} {F osrel : List UInt8}
    (hb : sectionBytes sections nameOsrel F = some osrel) (p : Option String)
    (h : ukiReadPrettyNameOf env sections F = .ok p) : prettyNameOf env osrel = .ok p := by
  unfold ukiReadPrettyNameOf at h
  rcases hr : readPeSectionOf sections nameOsrel F with e | _ | ⟨d, n⟩ <;>
    simp only [hr, Except.bind, reduceCtorEq] at h
  · have := (readPeSectionOf_eq_ok_none_iff hr).mp rfl
    rw [← findPeSection_eq_none_iff] at this
    simp [sectionBytes, this] at hb
  · obtain ⟨b, hb', rfl, rfl⟩ := readPeSectionOf_eq_ok_some hr
    rw [hb, Option.some.injEq] at hb'
    subst hb'
    rwa [List.take_left] at h

lemma ukiReadPrettyNameOf_of_fits {sections : List PeSectionHeader} {F osrel : List UInt8}
    (hfit : SectionFits sections nameOsrel F) (hb : sectionBytes sections nameOsrel F = some osrel) :
    ukiReadPrettyNameOf env sections F = prettyNameOf env osrel := by
  rw [ukiReadPrettyNameOf, readPeSectionOf_of_fits hfit, hb]
  simp only [Option.map_some', Except.bind, List.take_left]

/-- A successful read of a section of `inspect_uki` is NULL exactly when the table lacks it. -/
lemma readPart_eq_none_iff {sections : List PeSectionHeader} {name F : List UInt8}
    {c : Option (List UInt8)} (h : Option.map Prod.fst <$> readPeSectionOf sections name F = .ok c) :
    c = none ↔ name ∉ sections.map PeSectionHeader.name := by
  obtain ⟨r, hr, rfl⟩ := except_map_eq_ok.mp h
  rw [Option.map_eq_none', readPeSectionOf_eq_ok_none_iff hr]

/-- What a successful read phase of `inspect_uki` found, piece by requested piece. -/
lemma ukiMetadataOf_eq_ok {sections : List PeSectionHeader} {req : Request} {F : List UInt8}
    {md : UkiMetadata} (h : ukiMetadataOf env sections req F = .ok md) :
    (req.cmdline → (md.cmdline = none ↔ nameCmdline ∉ sections.map PeSectionHeader.name)) ∧
    (req.uname → (md.uname = none ↔ nameUname ∉ sections.map PeSectionHeader.name)) ∧
    (req.prettyName → ukiReadPrettyNameOf env sections F = .ok md.prettyName) := by
  simp only [ukiMetadataOf, except_bind_eq_ok, Except.ok.injEq] at h
  obtain ⟨c, hc, u, hu, p, hp, rfl⟩ := h
  refine ⟨fun hreq => ?_, fun hreq => ?_, fun hreq => ?_⟩
  · rw [if_pos hreq] at hc
    exact readPart_eq_none_iff hc
  · rw [if_pos hreq] at hu
    exact readPart_eq_none_iff hu
  · rwa [if_pos hreq] at hp

/-- The two ways `inspect_kernel` finishes its reads: for a file the decision list finds no UKI,
that type and no metadata; for a UKI, the metadata `inspect_uki` read from the table `pe_sections`
found. -/
lemma inspectKernelOf_eq_ok {filename : String} {req : Request} {t : KernelType}
    {omd : Option UkiMetadata} (h : inspectKernelOf env filename req = .ok (t, omd)) :
    (∃ F, env.fopen filename = .ok F ∧ kernelTypeOf F = .ok t ∧ t ≠ .uki ∧ omd = none) ∨
      (t = .uki ∧ ∃ F sections md, env.fopen filename = .ok F ∧
        peSectionsOfBytes F = .ok (some sections) ∧ isUki sections ∧
        ukiMetadataOf env sections req F = .ok md ∧ omd = some md) := by
  unfold inspectKernelOf at h
  rcases hF : env.fopen filename with e | F <;> simp only [hF, reduceCtorEq] at h
  obtain ⟨_ | sections, hs, h⟩ := except_bind_eq_ok.mp h
  · cases h
    exact .inl ⟨F, rfl, by rw [kernelTypeOf_eq_classify, hs, classify_none], by decide, rfl⟩
  · dsimp only at h
    by_cases hu : isUki sections
    · rw [if_pos hu] at h
      obtain ⟨md, hmd, he⟩ := except_map_eq_ok.mp h
      cases he
      exact .inr ⟨rfl, F, sections, md, rfl, hs, hu, hmd, rfl⟩
    · rw [if_neg hu] at h
      cases h
      refine .inl ⟨F, rfl, ?_, by decide, rfl⟩
      rw [kernelTypeOf_eq_classify, hs, classify_some, if_neg hu]

/-- The outputs of `inspect_kernel`: none is written when it fails; on success only the type is
written for a file the decision list finds no UKI, that type, and for a UKI every requested output,
the command line and the `uname` NULL exactly when the table has no such section. -/
theorem inspectKernel_outputs (filename : String) (req : Request) (m : Machine) :
    let r := (inspectKernel env filename req).run m
    (∀ f, resultOf r = .error f → (stateOf r).out = m.out) ∧
    (resultOf r = .ok () →
      (∃ F t, env.fopen filename = .ok F ∧ kernelTypeOf F = .ok t ∧ t ≠ .uki ∧
        (stateOf r).out = { m.out with type := if req.type then some t else m.out.type }) ∨
      ∃ F sections cmdline uname pname, env.fopen filename = .ok F ∧
        peSectionsOfBytes F = .ok (some sections) ∧ isUki sections ∧
        (stateOf r).out =
          ⟨if req.type then some .uki else m.out.type,
            if req.cmdline then some cmdline else m.out.cmdline,
            if req.uname then some uname else m.out.uname,
            if req.prettyName then some pname else m.out.prettyName⟩ ∧
        (req.cmdline → (cmdline = none ↔ nameCmdline ∉ sections.map PeSectionHeader.name)) ∧
        (req.uname → (uname = none ↔ nameUname ∉ sections.map PeSectionHeader.name))) := by
  intro r
  obtain ⟨hr, ho⟩ := inspectKernel_run env filename req m
  rcases hk : inspectKernelOf env filename req with e | ⟨t, omd⟩ <;> rw [hk] at hr ho
  · exact ⟨fun _ _ => ho, fun h => (nomatch hr.symm.trans h)⟩
  · refine ⟨fun f h => (nomatch hr.symm.trans h), fun _ => ?_⟩
    rcases inspectKernelOf_eq_ok env hk with
      ⟨F, hF, hkt, ht, rfl⟩ | ⟨rfl, F, sections, md, hF, hs, hu, hmd, rfl⟩
    · refine .inl ⟨F, t, hF, hkt, ht, ?_⟩
      rw [ho]
      cases h : req.type <;> simp only [writtenIf, Outputs.afterInspect, h] <;> rfl
    · obtain ⟨hc, hn, -⟩ := ukiMetadataOf_eq_ok env hmd
      refine .inr ⟨F, sections, md.cmdline, md.uname, md.prettyName, hF, hs, hu, ?_, hc, hn⟩
      rw [ho]
      cases h : req.type <;> simp only [writtenIf, Outputs.afterInspect, Outputs.withUki, h] <;> rfl

lemma sectionBytes_isSome_iff (sections : List PeSectionHeader) (name F : List UInt8) :
    (sectionBytes sections name F).isSome ↔ name ∈ sections.map PeSectionHeader.name := by
  rw [sectionBytes, Option.isSome_map', findPeSection_isSome_iff]

/-- A UKI has `.osrel` bytes. -/
lemma osrelBytes_of_isUki {sections : List PeSectionHeader} (hu : isUki sections) (F : List UInt8) :
    ∃ osrel, sectionBytes sections nameOsrel F = some osrel :=
  Option.isSome_iff_exists.mp ((sectionBytes_isSome_iff _ _ _).mpr ((isUki_iff _).mp hu).1)

lemma inspectKernelOf_of_isUki {filename : String} {F : List UInt8}
    {sections : List PeSectionHeader} (req : Request) (hF : env.fopen filename = .ok F)
    (hs : peSectionsOfBytes F = .ok (some sections)) (hu : isUki sections) :
    inspectKernelOf env filename req =
      (fun md => (.uki, some md)) <$> ukiMetadataOf env sections req F := by
  simp only [inspectKernelOf, hF, hs, Except.bind, hu, if_true]

/-! ## The smallest UKI -/

/-- A table all of whose sections hold at most 16 KiB and lie within the file. -/
lemma sectionFits_of_forall {sections : List PeSectionHeader} {F : List UInt8}
    (h : ∀ s ∈ sections, s.virtualSize ≤ 16 * 1024 ∧ s.pointerToRawData + s.virtualSize ≤ F.length)
    (name : List UInt8) : SectionFits sections name F := by
  intro i hi
  obtain ⟨hlt, -⟩ := List.findIdx?_eq_some_iff_getElem.mp hi
  rw [List.getD_eq_getElem?_getD, List.getElem?_eq_getElem hlt, Option.getD_some]
  exact h _ (List.getElem_mem hlt)

/-- For a UKI with the display name requested, a successful `inspect_kernel` reports the
os-release display name of the bytes of the first `.osrel` section: never NULL, never empty. -/
theorem inspectKernel_prettyName (filename : String) (F : List UInt8)
    (sections : List PeSectionHeader) (req : Request) (m : Machine)
    (hF : env.fopen filename = .ok F) (hs : peSectionsOfBytes F = .ok (some sections))
    (hu : isUki sections) (hp : req.prettyName)
    (hok : resultOf ((inspectKernel env filename req).run m) = .ok ()) :
    ∃ osrel pname name, sectionBytes sections nameOsrel F = some osrel ∧
      env.parseEnvFile osrel = .ok (pname, name) ∧
      (stateOf ((inspectKernel env filename req).run m)).out.prettyName =
        some (some (preferredName pname name)) ∧ preferredName pname name ≠ "" := by
  obtain ⟨hr, ho⟩ := inspectKernel_run env filename req m
  rw [inspectKernelOf_of_isUki env req hF hs hu, hok] at hr
  rw [inspectKernelOf_of_isUki env req hF hs hu] at ho
  rcases hmd : ukiMetadataOf env sections req F with e | md <;> rw [hmd] at hr ho
  · cases hr
  obtain ⟨osrel, hb⟩ := osrelBytes_of_isUki hu F
  obtain ⟨-, pname, name, hparse, hpm⟩ :=
    (prettyNameOf_eq_ok_iff env osrel _).mp
      (ukiReadPrettyNameOf_of_bytes env hb _ ((ukiMetadataOf_eq_ok env hmd).2.2 hp))
  refine ⟨osrel, pname, name, hb, hparse, ?_, preferredName_ne_empty pname name⟩
  rw [ho, ← hpm]
  simp only [Functor.map, Except.map, writtenIf, Outputs.afterInspect, Outputs.withUki, hp, if_true]
  split <;> rfl

set_option maxRecDepth 4000 in
theorem inspectKernel_prettyName_tinyUki :
    (tinyEnv fun _ => .ok ()).fopen "uki.efi" = .ok tinyUki ∧
    peSectionsOfBytes tinyUki = .ok (some tinySections) ∧ isUki tinySections ∧
    resultOf ((inspectKernel (tinyEnv fun _ => .ok ()) "uki.efi" ⟨true, true, true, true⟩).run
      ⟨⟨[], 0⟩, .untouched⟩) = .ok () ∧
    ∃ osrel pname name, sectionBytes tinySections nameOsrel tinyUki = some osrel ∧
      (tinyEnv fun _ => .ok ()).parseEnvFile osrel = .ok (pname, name) ∧
      (stateOf ((inspectKernel (tinyEnv fun _ => .ok ()) "uki.efi" ⟨true, true, true, true⟩).run
        ⟨⟨[], 0⟩, .untouched⟩)).out.prettyName = some (some (preferredName pname name)) ∧
      preferredName pname name ≠ "" := by
  have hu : isUki tinySections := by decide
  have hok : resultOf ((inspectKernel (tinyEnv fun _ => .ok ()) "uki.efi"
      ⟨true, true, true, true⟩).run ⟨⟨[], 0⟩, .untouched⟩) = .ok () := by
    rfl
  exact ⟨rfl, peSectionsOfBytes_tinyUki, hu, hok, inspectKernel_prettyName _ "uki.efi" tinyUki
    tinySections _ _ rfl peSectionsOfBytes_tinyUki hu rfl hok⟩

/-- When the `.cmdline` and `.uname` sections fit, the read phase of `inspect_uki` fails only in
`uki_read_pretty_name`. -/
lemma ukiMetadataOf_isOk_of_fits {sections : List PeSectionHeader} {F : List UInt8} (req : Request)
    (hc : SectionFits sections nameCmdline F) (hn : SectionFits sections nameUname F) :
    (∃ md, ukiMetadataOf env sections req F = .ok md) ↔
      (req.prettyName → ∃ p, ukiReadPrettyNameOf env sections F = .ok p) := by
  simp only [ukiMetadataOf, readPeSectionOf_of_fits hc, readPeSectionOf_of_fits hn, Functor.map,
    Except.map, except_ite_ok, except_bind_eq_ok, Except.ok.injEq, exists_eq_left', exists_eq',
    and_true]
  cases req.prettyName
  · simp
  · constructor
    · rintro ⟨md, p, h, -⟩ -
      exact ⟨p, h⟩
    · intro h
      obtain ⟨p, hp⟩ := h rfl
      exact ⟨_, p, hp, rfl⟩

/-- For a UKI whose `.cmdline`, `.uname` and `.osrel` sections fit, `inspect_kernel` with the
display name requested succeeds exactly when `fmemopen` and the os-release parser both succeed on
the `.osrel` bytes. -/
theorem inspectKernel_ok_iff_osrel_ok (filename : String) (F : List UInt8)
    (sections : List PeSectionHeader) (req : Request) (m : Machine)
    (hF : env.fopen filename = .ok F) (hs : peSectionsOfBytes F = .ok (some sections))
    (hu : isUki sections) (hc : SectionFits sections nameCmdline F)
    (hn : SectionFits sections nameUname F) (ho : SectionFits sections nameOsrel F)
    (hp : req.prettyName) :
    resultOf ((inspectKernel env filename req).run m) = .ok () ↔
      ∃ osrel, sectionBytes sections nameOsrel F = some osrel ∧ env.fmemopen osrel = .ok () ∧
        ∃ v, env.parseEnvFile osrel = .ok v := by
  obtain ⟨osrel, hb⟩ := osrelBytes_of_isUki hu F
  rw [(inspectKernel_run env filename req m).1, inspectKernelOf_of_isUki env req hF hs hu]
  calc (fun _ => ()) <$> (fun md => (KernelType.uki, some md)) <$>
        ukiMetadataOf env sections req F = .ok ()
      ↔ ∃ md, ukiMetadataOf env sections req F = .ok md := by
        cases ukiMetadataOf env sections req F <;> simp [Functor.map, Except.map]
    _ ↔ ∃ p, prettyNameOf env osrel = .ok p := by
        rw [ukiMetadataOf_isOk_of_fits env req hc hn, ukiReadPrettyNameOf_of_fits env ho hb]
        simp only [hp, true_implies]
    _ ↔ _ := by
        simp only [prettyNameOf_eq_ok_iff, hb, Option.some.injEq, exists_eq_left', Prod.exists]
        exact ⟨fun ⟨_, h, pname, name, hv, _⟩ => ⟨h, pname, name, hv⟩,
          fun ⟨h, pname, name, hv⟩ => ⟨_, h, pname, name, hv, rfl⟩⟩

set_option maxRecDepth 4000 in
theorem inspectKernel_ok_iff_osrel_ok_tinyUki :
    let env := tinyEnv fun buf => if buf = [] then .error Errno.EINVAL else .ok ()
    env.fopen "uki.efi" = .ok tinyUki ∧ peSectionsOfBytes tinyUki = .ok (some tinySections) ∧
    isUki tinySections ∧ SectionFits tinySections nameCmdline tinyUki ∧
    SectionFits tinySections nameUname tinyUki ∧ SectionFits tinySections nameOsrel tinyUki ∧
    (resultOf ((inspectKernel env "uki.efi" ⟨true, true, true, true⟩).run ⟨⟨[], 0⟩, .untouched⟩) =
        .ok () ↔
      ∃ osrel, sectionBytes tinySections nameOsrel tinyUki = some osrel ∧
        env.fmemopen osrel = .ok () ∧ ∃ v, env.parseEnvFile osrel = .ok v) := by
  have hfit : ∀ name, SectionFits tinySections name tinyUki := sectionFits_of_forall (by decide)
  have hu : isUki tinySections := by decide
  exact ⟨rfl, peSectionsOfBytes_tinyUki, hu, hfit _, hfit _, hfit _,
    inspectKernel_ok_iff_osrel_ok _ "uki.efi" tinyUki tinySections _ _ rfl peSectionsOfBytes_tinyUki
      hu (hfit _) (hfit _) (hfit _) rfl⟩

set_option maxRecDepth 4000 in
/-- On `tinyUki`, whose `.osrel` section is empty, with a C library whose `fmemopen` rejects a
zero-length buffer with `EINVAL` (as POSIX allows): the warning that says it ignores the
os-release file ends the whole inspection. -/
theorem inspectKernel_tinyUki_emptyOsrel :
    peSectionsOfBytes tinyUki = .ok (some tinySections) ∧ isUki tinySections ∧
    (∀ s ∈ tinySections, s.virtualSize ≤ 16 * 1024 ∧
      s.pointerToRawData + s.virtualSize ≤ tinyUki.length) ∧
    resultOf ((inspectKernel (tinyEnv fun buf => if buf = [] then .error Errno.EINVAL else .ok ())
      "uki.efi" ⟨true, true, true, true⟩).run ⟨⟨[], 0⟩, .untouched⟩) =
      .error ⟨Errno.EINVAL, "Failed to open embedded os-release file, ignoring: %m"⟩ :=
  ⟨peSectionsOfBytes_tinyUki, by decide, by decide, by rfl⟩

end Stubble.Proofs
