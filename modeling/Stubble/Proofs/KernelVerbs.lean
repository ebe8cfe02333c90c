import Stubble.KernelVerbs
import Stubble.Proofs.Inspection

/-!
# Asking `inspect_kernel` for less

`inspect_kernel` reads a UKI's command line, uname and pretty name only for the output pointers its
caller passes, and each of these reads can fail. This file proves that asking for less never fails
where asking for more succeeded, and gives the same values for what both ask for. For the verbs of
bootctl: wherever `kernel-inspect` succeeds, `kernel-identify` succeeds and names the same type.
-/

namespace Stubble.Proofs

/-- What `inspect_uki` reads for `req`, from what it read for a request asking for more. -/
def metadataFor (req : Request) (md : UkiMetadata) : UkiMetadata :=
  ⟨if req.cmdline then md.cmdline else none, if req.uname then md.uname else none,
    if req.prettyName then md.prettyName else none⟩

/-- A read made for a request is made, with the same result, for any request asking for more. -/
lemma readIf_within {α : Type} {b b' : Bool} (hb : b → b') {x : Except Failure (Option α)}
    {a : Option α} (h : (if b' then x else .ok none) = .ok a) :
    (if b then x else .ok none) = .ok (if b then a else none) := by
  cases b
  · rfl
  · simpa only [if_pos (hb rfl), if_true] using h

section Within
variable (env : UkiEnv) {req req' : Request}

lemma ukiMetadataOf_within (hc : req.cmdline → req'.cmdline) (hu : req.uname → req'.uname)
    (hp : req.prettyName → req'.prettyName) {sections : List PeSectionHeader} {F : List UInt8}
    {md : UkiMetadata} (h : ukiMetadataOf env sections req' F = .ok md) :
    ukiMetadataOf env sections req F = .ok (metadataFor req md) := by
  simp only [ukiMetadataOf, except_bind_eq_ok, Except.ok.injEq] at h
  obtain ⟨c, hc', u, hu', p, hp', rfl⟩ := h
  simp only [ukiMetadataOf, readIf_within hc hc', readIf_within hu hu', readIf_within hp hp']
  rfl

/-- The type `inspect_kernel` finds does not depend on the request, and what it reads for a request
is what it read for one asking for more, cut down. -/
lemma inspectKernelOf_within (hc : req.cmdline → req'.cmdline) (hu : req.uname → req'.uname)
    (hp : req.prettyName → req'.prettyName) {filename : String} {t : KernelType}
    {omd : Option UkiMetadata} (h : inspectKernelOf env filename req' = .ok (t, omd)) :
    inspectKernelOf env filename req = .ok (t, omd.map (metadataFor req)) := by
  unfold inspectKernelOf at h ⊢
  rcases hF : env.fopen filename with e | F <;> simp only [hF, reduceCtorEq] at h ⊢
  obtain ⟨s, hs, h⟩ := except_bind_eq_ok.mp h
  refine except_bind_eq_ok.mpr ⟨s, hs, ?_⟩
  rcases s with _ | sections
  · cases h
    rfl
  dsimp only at h ⊢
  by_cases hui : isUki sections
  · rw [if_pos hui] at h ⊢
    obtain ⟨md, hmd, he⟩ := except_map_eq_ok.mp h
    cases he
    rw [ukiMetadataOf_within env hc hu hp hmd]
    rfl
  · rw [if_neg hui] at h ⊢
    cases h
    rfl

end Within

/-- The outputs `inspect_kernel` writes once it has read everything, field by field. -/
lemma afterInspect_fields (req : Request) (t : KernelType) (omd : Option UkiMetadata)
    (o : Outputs) :
    (Outputs.afterInspect req (t, omd) o).type = (if req.type then some t else o.type) ∧
    (Outputs.afterInspect req (t, omd) o).cmdline =
      (if req.cmdline then omd.elim o.cmdline fun md => some md.cmdline else o.cmdline) ∧
    (Outputs.afterInspect req (t, omd) o).uname =
      (if req.uname then omd.elim o.uname fun md => some md.uname else o.uname) ∧
    (Outputs.afterInspect req (t, omd) o).prettyName =
      (if req.prettyName then omd.elim o.prettyName fun md => some md.prettyName
        else o.prettyName) := by
  unfold Outputs.afterInspect
  rcases omd with _ | md <;> by_cases ht : req.type <;> simp [ht, Outputs.withUki]

/-- Asking `inspect_kernel` for fewer of a UKI's command line, uname and pretty name never makes it
fail where it succeeded; and every output both requests ask for comes out the same, the type
included. -/
theorem inspectKernel_request_within (env : UkiEnv) (filename : String) (req req' : Request)
    (m : Machine) (hc : req.cmdline → req'.cmdline) (hu : req.uname → req'.uname)
    (hp : req.prettyName → req'.prettyName)
    (hok : resultOf ((inspectKernel env filename req').run m) = .ok ()) :
    let o := (stateOf ((inspectKernel env filename req).run m)).out
    let o' := (stateOf ((inspectKernel env filename req').run m)).out
    resultOf ((inspectKernel env filename req).run m) = .ok () ∧
      (req.type → req'.type → o.type = o'.type) ∧ (req.cmdline → o.cmdline = o'.cmdline) ∧
      (req.uname → o.uname = o'.uname) ∧ (req.prettyName → o.prettyName = o'.prettyName) := by
  intro o o'
  obtain ⟨hr, ho⟩ := inspectKernel_run env filename req m
  obtain ⟨hr', ho'⟩ := inspectKernel_run env filename req' m
  rcases hk : inspectKernelOf env filename req' with e | ⟨t, omd⟩
  · rw [hr', hk] at hok
    cases hok
  rw [hk] at ho'
  rw [inspectKernelOf_within env hc hu hp hk] at hr ho
  obtain ⟨ht, hcm, hun, hpn⟩ := afterInspect_fields req t (omd.map (metadataFor req)) m.out
  obtain ⟨ht', hcm', hun', hpn'⟩ := afterInspect_fields req' t omd m.out
  simp only [o, o', ho, ho', writtenIf]
  refine ⟨hr, fun h1 h2 => by rw [ht, ht', if_pos h1, if_pos h2], fun h => ?_, fun h => ?_,
    fun h => ?_⟩
  · rw [hcm, hcm', if_pos h, if_pos (hc h)]
    rcases omd with _ | md <;> simp [metadataFor, h]
  · rw [hun, hun', if_pos h, if_pos (hu h)]
    rcases omd with _ | md <;> simp [metadataFor, h]
  · rw [hpn, hpn', if_pos h, if_pos (hp h)]
    rcases omd with _ | md <;> simp [metadataFor, h]

set_option maxRecDepth 4000 in
theorem inspectKernel_request_within_tinyUki :
    (resultOf ((inspectKernel (tinyEnv fun _ => .ok ()) "uki.efi" ⟨true, true, true, true⟩).run
      Machine.initial) = .ok ()) ∧
    let o := (stateOf ((inspectKernel (tinyEnv fun _ => .ok ()) "uki.efi"
      ⟨true, false, false, false⟩).run Machine.initial)).out
    let o' := (stateOf ((inspectKernel (tinyEnv fun _ => .ok ()) "uki.efi"
      ⟨true, true, true, true⟩).run Machine.initial)).out
    resultOf ((inspectKernel (tinyEnv fun _ => .ok ()) "uki.efi" ⟨true, false, false, false⟩).run
        Machine.initial) = .ok () ∧
      (true → true → o.type = o'.type) ∧ (false → o.cmdline = o'.cmdline) ∧
      (false → o.uname = o'.uname) ∧ (false → o.prettyName = o'.prettyName) := by
  have hok : resultOf ((inspectKernel (tinyEnv fun _ => .ok ()) "uki.efi"
      ⟨true, true, true, true⟩).run Machine.initial) = .ok () := by
    rfl
  exact ⟨hok, inspectKernel_request_within _ "uki.efi" ⟨true, false, false, false⟩
    ⟨true, true, true, true⟩ Machine.initial (fun _ => rfl) (fun _ => rfl) (fun _ => rfl) hok⟩

/-! ## The kernel verbs -/

lemma textBytes_append (s t : String) : textBytes (s ++ t) = textBytes s ++ textBytes t := by
  simp only [textBytes, String.data_append, List.flatMap_append]

variable (env : UkiEnv)

/-- A run of `inspect_kernel` fails as its reading of the file does, or returns with the outputs of
that reading written. -/
lemma inspectKernel_run_cases (filename : String) (req : Request) (m : Machine) :
    (∃ e m', inspectKernelOf env filename req = .error e ∧
      (inspectKernel env filename req).run m = .error e m') ∨
    ∃ r m', inspectKernelOf env filename req = .ok r ∧
      (inspectKernel env filename req).run m = .ok () m' ∧
      m'.out = Outputs.afterInspect req r m.out := by
  obtain ⟨hr, ho⟩ := inspectKernel_run env filename req m
  cases hrun : (inspectKernel env filename req).run m with
  | error e m' =>
    rw [hrun] at hr
    rcases hk : inspectKernelOf env filename req with e' | r <;> rw [hk] at hr <;> cases hr
    exact .inl ⟨e, m', rfl, rfl⟩
  | ok u m' =>
    rw [hrun] at hr ho
    rcases hk : inspectKernelOf env filename req with e' | r <;> rw [hk] at hr ho <;> cases hr
    exact .inr ⟨r, m', rfl, rfl, ho⟩

/-- `kernel-identify` prints the name of the type `inspect_kernel` finds. -/
lemma verbKernelIdentify_eq (filename : String) :
    verbKernelIdentify env filename =
      (fun r => textBytes (kernelTypeToString r.1) ++ [0x0a]) <$>
        inspectKernelOf env filename ⟨true, false, false, false⟩ := by
  unfold verbKernelIdentify
  rcases inspectKernel_run_cases env filename ⟨true, false, false, false⟩ Machine.initial with
    ⟨e, m, hk, hrun⟩ | ⟨⟨t, omd⟩, m, hk, hrun, ho⟩ <;> rw [hrun, hk]
  · rfl
  · dsimp only
    rw [ho, (afterInspect_fields _ t omd _).1]
    rfl

/-- `kernel-inspect` prints the type `inspect_kernel` finds on its first line. -/
lemma verbKernelInspect_eq_ok {filename : String} {out : List UInt8}
    (h : verbKernelInspect env filename = .ok out) :
    ∃ t omd rest, inspectKernelOf env filename ⟨true, true, true, true⟩ = .ok (t, omd) ∧
      out = textBytes ("Kernel Type: " ++ kernelTypeToString t ++ "\n") ++ rest := by
  unfold verbKernelInspect at h
  rcases inspectKernel_run_cases env filename ⟨true, true, true, true⟩ Machine.initial with
    ⟨e, m, hk, hrun⟩ | ⟨⟨t, omd⟩, m, hk, hrun, ho⟩ <;> rw [hrun] at h
  · cases h
  cases h
  refine ⟨t, omd, optionalLine "    Cmdline: " m.out.cmdline.join ++ optionalLine "    Version: "
    m.out.uname.join ++ optionalLine "         OS: " (m.out.prettyName.join.map textBytes), hk, ?_⟩
  rw [ho, (afterInspect_fields _ t omd _).1]
  simp only [if_true, typeName, List.append_assoc]

/-- Whenever `kernel-inspect` succeeds on a file, `kernel-identify` succeeds on it, and what it
prints is what `kernel-inspect` prints first, after `Kernel Type: `. -/
theorem verbKernelInspect_identify (filename : String) (out : List UInt8)
    (h : verbKernelInspect env filename = .ok out) :
    ∃ line, verbKernelIdentify env filename = .ok line ∧ textBytes "Kernel Type: " ++ line <+: out := by
  obtain ⟨t, omd, rest, hk, rfl⟩ := verbKernelInspect_eq_ok env h
  refine ⟨textBytes (kernelTypeToString t) ++ [0x0a], ?_, rest, ?_⟩
  · rw [verbKernelIdentify_eq, @inspectKernelOf_within env ⟨true, false, false, false⟩ _
      (fun _ => rfl) (fun _ => rfl) (fun _ => rfl) _ _ _ hk]
    rfl
  · rw [textBytes_append, textBytes_append]
    simp only [List.append_assoc]
    rfl

set_option maxRecDepth 4000 in
theorem verbKernelInspect_identify_tinyUki :
    verbKernelInspect (tinyEnv fun _ => .ok ()) "uki.efi" =
      .ok (textBytes "Kernel Type: uki\n         OS: Linux\n") ∧
    ∃ line, verbKernelIdentify (tinyEnv fun _ => .ok ()) "uki.efi" = .ok line ∧
      textBytes "Kernel Type: " ++ line <+: textBytes "Kernel Type: uki\n         OS: Linux\n" := by
  have h : verbKernelInspect (tinyEnv fun _ => .ok ()) "uki.efi" =
      .ok (textBytes "Kernel Type: uki\n         OS: Linux\n") := by
    rfl
  exact ⟨h, verbKernelInspect_identify _ "uki.efi" _ h⟩

end Stubble.Proofs
