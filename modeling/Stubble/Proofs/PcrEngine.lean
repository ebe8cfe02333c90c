import Stubble.Measure

/-!
# The registers `verb_calculate` computes

Outside `--current` mode every bank's register is the spec's double-extend fold over the non-empty
inputs in `UnifiedSection` order, whatever chunks `read` delivers and whichever other banks are
configured. In `--current` mode a returning `measure_pcr` has adopted the decoded sysfs values, but
its assertion on their length does not hold for every file content.
-/

namespace Stubble.Proofs

/-! ## One section's read loop -/

/-- The read buffer once the chunks have landed at its front, one after another. -/
def bufferAfter (chunks : List (List UInt8)) (buffer : List UInt8) : List UInt8 :=
  chunks.foldl (fun b c => c ++ b.drop c.length) buffer

@[simp] lemma MdCtx.update_update (ctx : MdCtx) (a b : List UInt8) :
    (ctx.update a).update b = ctx.update (a ++ b) := by
  simp only [MdCtx.update, List.append_assoc]

@[simp] lemma MdCtx.update_nil (ctx : MdCtx) : ctx.update [] = ctx := by
  simp only [MdCtx.update, List.append_nil]

/-- The read loop feeds every context exactly the file's bytes, in order, whatever the buffer held
and however the reads split the file; it fails on the first failed read. -/
lemma readLoop_eq (path : String) (final : Option Errno) (chunks : List (List UInt8))
    (ctxs : List MdCtx) (buffer : List UInt8) (m : Nat) :
    readLoop path final chunks ctxs buffer m =
      match final with
      | none => .ok (ctxs.map (·.update chunks.flatten), bufferAfter chunks buffer,
          m + chunks.flatten.length)
      | some e => .error (.fail (logErrorErrno e ("Failed to read '" ++ path ++ "': %m"))) := by
  induction chunks generalizing ctxs buffer m with
  | nil => cases final <;> simp [readLoop, bufferAfter]
  | cons chunk rest ih =>
    rw [readLoop, ih, List.take_left]
    cases final <;> simp [List.map_map, Function.comp_def, bufferAfter, Nat.add_assoc]

/-! ## Extending a register -/

/-- A register of the declared size of its digest, as `verb_calculate` allocates it. -/
structure Sized (s : PcrState) : Prop where
  size_eq : s.valueSize = s.md.size
  length_eq : s.value.length = s.valueSize
  pos : 0 < s.valueSize

lemma Sized.withDigest {s : PcrState} (hs : Sized s) (x : List UInt8) :
    Sized { s with value := s.md.digest x } :=
  ⟨hs.size_eq, by simp only [s.md.digest_length, hs.size_eq], hs.pos⟩

/-- `pcr_state_extend` returns only with a register of exactly `value_size` bytes, and changes
nothing but the register. -/
lemma pcrStateExtend_eq_ok {s s' : PcrState} {data : List UInt8}
    (h : pcrStateExtend s data = .ok s') :
    s' = { s with value := s'.value } ∧ s'.value.length = s.valueSize := by
  unfold pcrStateExtend at h
  split at h
  · cases h
  dsimp only at h
  split at h
  · cases h
  · rename_i hl
    cases h
    exact ⟨rfl, not_not.mp hl⟩

lemma pcrStateExtend_of_sized {s : PcrState} (hs : Sized s) (data : List UInt8) :
    pcrStateExtend s data = .ok { s with value := s.md.digest (s.value ++ data) } := by
  have htake : s.value.take s.valueSize = s.value := by rw [← hs.length_eq, List.take_length]
  simp only [pcrStateExtend, MdCtx.final, MdCtx.init, MdCtx.update, List.nil_append, htake,
    s.md.digest_length, ← hs.size_eq, ne_eq, not_true_eq_false, if_false, hs.pos.ne', if_false]

/-- The spec's double extend of a register by one input: by the digest of the name and its NUL,
then by the digest of the content. -/
def extendStep (md : Md) (r : List UInt8) (input : List UInt8 × List UInt8) : List UInt8 :=
  md.digest (md.digest (r ++ md.digest (input.1 ++ [0])) ++ md.digest input.2)

/-- The bytes of a section's name. -/
def sectionNameBytes (c : UnifiedSection) : List UInt8 :=
  (unifiedSections c).toList.map fun ch : Char => ch.toNat.toUInt8

lemma cStringBytes_unifiedSections (c : UnifiedSection) :
    cStringBytes (unifiedSections c) = sectionNameBytes c ++ [0] := by
  cases c <;> rfl

/-- One bank's step on a section: the double extend by the section's name and its content. -/
def sectionStep (c : UnifiedSection) (content : List UInt8) (s : PcrState) : PcrState :=
  { s with value := extendStep s.md s.value (sectionNameBytes c, content) }

lemma Sized.sectionStep {s : PcrState} (hs : Sized s) (c : UnifiedSection)
    (content : List UInt8) : Sized (sectionStep c content s) :=
  hs.withDigest _

lemma measureBank_of_sized {s : PcrState} {ctx : MdCtx} (c : UnifiedSection) (hs : Sized s)
    (hctx : ctx.md = s.md) :
    measureBank c s ctx = .ok (sectionStep c ctx.data s) := by
  have hname := (hs.withDigest (s.value ++ s.md.digest (sectionNameBytes c ++ [0])))
  simp only [measureBank, cStringBytes_unifiedSections, s.md.digest_length, ← hs.size_eq,
    ne_eq, not_true_eq_false, if_false, pcrStateExtend_of_sized hs, Except.bind, MdCtx.final,
    hctx, pcrStateExtend_of_sized hname]
  rfl

lemma zip_map_self {α β : Type} (l : List α) (h : α → β) :
    l.zip (l.map h) = l.map fun a => (a, h a) := by
  induction l with
  | nil => rfl
  | cons a l ih => simp only [List.map_cons, List.zip_cons_cons, ih]

/-! ## The section loop -/

variable (env : MeasureEnv)

/-- One pass of the section loop on a file that opens: a failed read fails it; otherwise it skips
the section when the file is empty and else measures every bank from a context fed the content. -/
lemma measureSection_of_openFile {c : UnifiedSection} {path : String} {t : ReadTrace}
    (ht : env.openFile path = .ok t) (states : List PcrState) (buffer : List UInt8) :
    measureSection env c path states buffer =
      match t.final with
      | none =>
        if t.contents = [] then .ok (states, bufferAfter t.chunks buffer)
        else (fun states => (states, bufferAfter t.chunks buffer)) <$>
          (states.map fun s => (s, (MdCtx.init s.md).update t.contents)).mapM
            fun p => measureBank c p.1 p.2
      | some e => .error (.fail (logErrorErrno e ("Failed to read '" ++ path ++ "': %m"))) := by
  simp only [measureSection, ht, readLoop_eq]
  cases t.final
  · simp only [Except.bind, Nat.zero_add, List.length_eq_zero, ReadTrace.contents, List.map_map,
      Function.comp_def, zip_map_self]
  · rfl

/-- One pass of the section loop on registers of their declared sizes: the file opens and reads to
its end, or the pass fails; an empty file leaves the registers alone, any other extends every bank
by its name and content. -/
lemma measureSection_eq {c : UnifiedSection} {path : String} {states : List PcrState}
    (buffer : List UInt8) (hs : ∀ s ∈ states, Sized s) :
    measureSection env c path states buffer =
      match env.openFile path with
      | .error e => .error (.fail (logErrorErrno e ("Failed to open '" ++ path ++ "': %m")))
      | .ok t =>
        match t.final with
        | none => .ok (if t.contents = [] then states else states.map (sectionStep c t.contents),
            bufferAfter t.chunks buffer)
        | some e => .error (.fail (logErrorErrno e ("Failed to read '" ++ path ++ "': %m"))) := by
  rcases ht : env.openFile path with e | t
  · simp only [measureSection, ht]
  rw [measureSection_of_openFile env ht]
  dsimp only
  cases t.final
  · have hbank : ∀ p ∈ states.map (fun s => (s, (MdCtx.init s.md).update t.contents)),
        measureBank c p.1 p.2 = .ok (sectionStep c t.contents p.1) :=
      List.forall_mem_map.2 fun s hs' => measureBank_of_sized c (hs s hs') rfl
    simp only [mapM_eq_ok_map hbank, List.map_map, Function.comp_def]
    split_ifs <;> rfl
  · rfl

/-- The inputs the spec measures, in order: every section given a file that opens and is not empty,
as its name and its content. -/
def measuredInputs (sections : UnifiedSection → Option String) (cs : List UnifiedSection) :
    List (List UInt8 × List UInt8) :=
  cs.filterMap fun c => (sections c).bind fun path =>
    match env.openFile path with
    | .ok t => if t.contents = [] then none else some (sectionNameBytes c, t.contents)
    | .error _ => none

/-- A returning section loop has extended every register, from wherever it stood, by the measured
inputs in order. -/
lemma measureSections_eq_ok {sections : UnifiedSection → Option String} {cs : List UnifiedSection}
    {states finals : List PcrState} {buffer : List UInt8} (hs : ∀ s ∈ states, Sized s)
    (h : measureSections env sections cs states buffer = .ok finals) :
    finals = states.map fun s =>
      { s with value := (measuredInputs env sections cs).foldl (extendStep s.md) s.value } := by
  induction cs generalizing states buffer with
  | nil =>
    cases h
    simp [measuredInputs]
  | cons c cs ih =>
    unfold measureSections at h
    rcases hc : sections c with _ | path <;> simp only [hc] at h
    · simpa [measuredInputs, hc] using ih hs h
    · rw [measureSection_eq env buffer hs] at h
      rcases ht : env.openFile path with e | t <;> simp only [ht] at h
      · cases h
      rcases hf : t.final with _ | e <;> simp only [hf, Except.bind] at h
      · by_cases hempty : t.contents = []
        · simp only [hempty, if_true] at h
          simpa [measuredInputs, hc, ht, hempty] using ih hs h
        · simp only [hempty, if_false] at h
          have hs' : ∀ s ∈ states.map (sectionStep c t.contents), Sized s :=
            List.forall_mem_map.2 fun s hs'' => (hs s hs'').sectionStep c t.contents
          rw [ih hs' h]
          simp [measuredInputs, hc, ht, hempty, sectionStep]
      · cases h

/-! ## The registers of `verb_calculate` -/

lemma forall₂_right {α β : Type} {R : α → β → Prop} {P : β → Prop} {l : List α} {r : List β}
    (h : List.Forall₂ R l r) (hP : ∀ a b, R a b → P b) : ∀ b ∈ r, P b := by
  induction h with
  | nil => simp
  | cons hab _ ih => simpa [hP _ _ hab] using ih

/-- The register the spec predicts for a bank: the double extends of the measured inputs in order,
from as many zero bytes as the digest's output. -/
def extendChain (md : Md) (inputs : List (List UInt8 × List UInt8)) : List UInt8 :=
  inputs.foldl (extendStep md) (List.replicate md.size 0)

lemma length_foldl_extendStep (md : Md) (inputs : List (List UInt8 × List UInt8))
    {r : List UInt8} (hr : r.length = md.size) : (inputs.foldl (extendStep md) r).length = md.size := by
  induction inputs generalizing r with
  | nil => exact hr
  | cons x xs ih => exact ih (md.digest_length _)

lemma length_extendChain (md : Md) (inputs : List (List UInt8 × List UInt8)) :
    (extendChain md inputs).length = md.size :=
  length_foldl_extendStep md inputs (List.length_replicate _ _)

/-- A bank `verb_calculate` accepts: a known digest of a sane size, and a zero register of it. -/
lemma pcrStateOfBank_eq_ok {d : String} {s : PcrState} (h : pcrStateOfBank env d = .ok s) :
    ∃ md, env.getDigestByName d = some md ∧
      s = ⟨asciiStrlower md.name, md, List.replicate md.size 0, md.size⟩ ∧ Sized s := by
  unfold pcrStateOfBank at h
  rcases hmd : env.getDigestByName d with _ | md <;> simp only [hmd, reduceCtorEq] at h
  split_ifs at h with hsz
  cases h
  exact ⟨md, rfl, rfl, rfl, List.length_replicate _ _, Nat.pos_of_ne_zero fun h0 => hsz (.inl h0)⟩

/-- Outside `--current` mode, a returning `verb_calculate` has one register per requested bank: the
spec's double-extend fold over the non-empty inputs in `UnifiedSection` order, from zero bytes of
the digest's size, depending on nothing but that bank's digest and the inputs' contents; and every
extend leaves a register of exactly `value_size` bytes. -/
theorem verbCalculate_registers (cfg : Config) (hcur : cfg.current = false)
    (finals : List PcrState) (h : verbCalculate env cfg = .ok finals) :
    (∀ s data s', pcrStateExtend s data = .ok s' →
      s'.value.length = s.valueSize ∧ s'.valueSize = s.valueSize) ∧
    List.Forall₂ (fun d f => ∃ md, env.getDigestByName d = some md ∧
        f.bank = asciiStrlower md.name ∧ f.md = md ∧ f.valueSize = md.size ∧
        f.value = extendChain md (measuredInputs env cfg.sections UnifiedSection.all) ∧
        f.value.length = md.size)
      cfg.banks finals := by
  refine ⟨fun s data s' he => ?_, ?_⟩
  · obtain ⟨hs', hl⟩ := pcrStateExtend_eq_ok he
    exact ⟨hl, by rw [hs']⟩
  unfold verbCalculate at h
  split_ifs at h
  obtain ⟨states, hst, hm⟩ := except_bind_eq_ok.mp h
  rw [mapM_eq_ok_iff_forall₂] at hst
  have hbanks := hst.imp fun _ _ => pcrStateOfBank_eq_ok env
  simp only [measurePcr, hcur, Bool.false_eq_true, if_false] at hm
  split_ifs at hm
  rw [measureSections_eq_ok env (forall₂_right hbanks fun _ _ ⟨_, _, _, hs⟩ => hs) hm,
    List.forall₂_map_right_iff]
  refine hbanks.imp ?_
  rintro d _ ⟨md, hget, rfl, -⟩
  exact ⟨md, hget, rfl, rfl, rfl, rfl, length_extendChain _ _⟩

/-- A one-byte digest, the message length modulo 256: a stand-in that keeps the fold computable. -/
def lenDigest : Md := ⟨"LEN", 1, fun x => [x.length.toUInt8], fun _ => rfl⟩

/-- A kernel image of five bytes delivered by two reads. -/
def helloTrace : ReadTrace := ⟨[[104, 101, 108], [108, 111]], none, by decide, by decide⟩

/-- The collaborators of a run measuring `helloTrace` with `lenDigest`. -/
def helloEnv : MeasureEnv :=
  ⟨fun d => if d = "LEN" then some lenDigest else none, fun _ => .ok helloTrace,
    fun _ => .error Errno.ENOENT, []⟩

/-- `--linux=vmlinuz --bank=LEN`. -/
def helloCfg : Config := ⟨fun c => if c = .linux then some "vmlinuz" else none, ["LEN"], false⟩

theorem verbCalculate_registers_hello :
    helloCfg.current = false ∧ verbCalculate helloEnv helloCfg = .ok [⟨"len", lenDigest, [2], 1⟩] ∧
    (∀ s data s', pcrStateExtend s data = .ok s' →
      s'.value.length = s.valueSize ∧ s'.valueSize = s.valueSize) ∧
    List.Forall₂ (fun (d : String) (f : PcrState) => ∃ md, helloEnv.getDigestByName d = some md ∧
        f.bank = asciiStrlower md.name ∧ f.md = md ∧ f.valueSize = md.size ∧
        f.value = extendChain md (measuredInputs helloEnv helloCfg.sections UnifiedSection.all) ∧
        f.value.length = md.size)
      helloCfg.banks [⟨"len", lenDigest, [2], 1⟩] := by
  have h : verbCalculate helloEnv helloCfg = .ok [⟨"len", lenDigest, [2], 1⟩] := by rfl
  exact ⟨rfl, h, verbCalculate_registers helloEnv helloCfg rfl _ h⟩

/-! ## The chunk loop of one section -/

/-- For a file whose reads end at its end, the chunk loop of `measure_pcr` feeds every context
exactly the file's content, in order, and leaves `m` at the content's length, however `read` split
it; so the section is skipped for all banks exactly when the file is empty, and otherwise every bank
is measured from a context fed the content. -/
theorem measureSection_readLoop (c : UnifiedSection) (path : String) (t : ReadTrace)
    (ht : env.openFile path = .ok t) (hfinal : t.final = none) (ctxs : List MdCtx)
    (states : List PcrState) (buffer : List UInt8) :
    readLoop path t.final t.chunks ctxs buffer 0 =
        .ok (ctxs.map (·.update t.contents), bufferAfter t.chunks buffer, t.contents.length) ∧
      measureSection env c path states buffer =
        if t.contents = [] then .ok (states, bufferAfter t.chunks buffer)
        else (fun states => (states, bufferAfter t.chunks buffer)) <$>
          (states.map fun s => (s, (MdCtx.init s.md).update t.contents)).mapM
            fun p => measureBank c p.1 p.2 := by
  have hloop : ∀ ctxs : List MdCtx, readLoop path t.final t.chunks ctxs buffer 0 =
      .ok (ctxs.map (·.update t.contents), bufferAfter t.chunks buffer, t.contents.length) := by
    intro ctxs
    rw [readLoop_eq, hfinal, Nat.zero_add, ReadTrace.contents]
  exact ⟨hloop ctxs, by rw [measureSection_of_openFile env ht, hfinal]⟩

theorem measureSection_readLoop_hello :
    helloEnv.openFile "vmlinuz" = .ok helloTrace ∧ helloTrace.final = none ∧
    (readLoop "vmlinuz" helloTrace.final helloTrace.chunks [MdCtx.init lenDigest] [] 0 =
        .ok ([MdCtx.init lenDigest].map (·.update helloTrace.contents),
          bufferAfter helloTrace.chunks [], helloTrace.contents.length) ∧
      measureSection helloEnv .linux "vmlinuz" [⟨"len", lenDigest, [0], 1⟩] [] =
        if helloTrace.contents = [] then .ok ([⟨"len", lenDigest, [0], 1⟩], bufferAfter helloTrace.chunks [])
        else (fun states => (states, bufferAfter helloTrace.chunks [])) <$>
          ([⟨"len", lenDigest, [0], 1⟩].map fun (s : PcrState) =>
            (s, (MdCtx.init s.md).update helloTrace.contents)).mapM
            fun p => measureBank .linux p.1 p.2) :=
  ⟨rfl, rfl, measureSection_readLoop helloEnv .linux "vmlinuz" helloTrace rfl rfl _ _ _⟩

/-! ## `--current` mode -/

/-- A bank in `--current` mode returns with the decoded sysfs value, of the register's size. -/
lemma measureCurrentBank_eq_ok {s f : PcrState} (h : measureCurrentBank env s = .ok f) :
    ∃ text, env.readVirtualFile (pcrPath s.bank) = .ok text ∧
      unhexmem (strstrip text) = .ok f.value ∧ f.value.length = s.valueSize ∧
      f = { s with value := f.value } := by
  unfold measureCurrentBank at h
  rcases hr : env.readVirtualFile (pcrPath s.bank) with e | text <;> simp only [hr] at h
  · cases h
  rcases hv : unhexmem (strstrip text) with e | v <;> simp only [hv] at h
  · cases h
  split_ifs at h with hlen
  cases h
  exact ⟨text, rfl, hv, (not_not.mp hlen).symm, rfl⟩

/-- OpenSSL's SHA256 as `--current` mode uses it: its name and its 32-byte size. No digest is
computed in that mode, so any function of that size stands for it. -/
def sha256Current : Md := ⟨"SHA256", 32, fun _ => List.replicate 32 0, fun _ => List.length_replicate _ _⟩

/-- `--current --bank=SHA256` on a platform whose sysfs file holds the well-formed hex of one byte:
`verb_calculate` aborts on the assertion of `measure_pcr` instead of returning an error. -/
theorem verbCalculate_current_short_value :
    verbCalculate ⟨fun d => if d = "SHA256" then some sha256Current else none,
        fun _ => .error Errno.ENOENT,
        fun p => if p = "/sys/class/tpm/tpm0/pcr-sha256/11" then .ok "00\n" else .error Errno.ENOENT,
        []⟩
      ⟨fun _ => none, ["SHA256"], true⟩ = .error (.abort "pcr_states[i].value_size == sz") := by
  rfl

/-! ## Empty inputs -/

/-- A section whose file opens and reads as empty leaves the registers and the read buffer as they
were. -/
lemma measureSection_empty {c : UnifiedSection} {path : String} {t : ReadTrace}
    (ht : env.openFile path = .ok t) (hempty : t.chunks = []) (hend : t.final = none)
    (states : List PcrState) (buffer : List UInt8) :
    measureSection env c path states buffer = .ok (states, buffer) := by
  simp only [measureSection, ht, hempty, hend, readLoop, Except.bind, if_true]

lemma measureSections_update_empty (sections : UnifiedSection → Option String) {c : UnifiedSection}
    {path : String} (hsec : ∀ states buffer, measureSection env c path states buffer = .ok (states, buffer))
    (cs : List UnifiedSection) (states : List PcrState) (buffer : List UInt8) :
    measureSections env (Function.update sections c (some path)) cs states buffer =
      measureSections env (Function.update sections c none) cs states buffer := by
  induction cs generalizing states buffer with
  | nil => rfl
  | cons c' cs ih =>
    by_cases hc : c' = c
    · subst hc
      simp only [measureSections, Function.update_same, hsec, Except.bind, ih]
    · simp only [measureSections, Function.update_noteq hc, ih]

/-- Giving a section other than the kernel a file that reads as empty is the same as not giving
it: `verb_calculate` returns the same registers, or fails the same way, in both modes. (Without
`--current`, omitting `--linux=` is refused while an empty kernel file is not.) -/
theorem verbCalculate_empty_eq_omitted (cfg : Config) (c : UnifiedSection) (hc : c ≠ .linux)
    (path : String) (t : ReadTrace) (ht : env.openFile path = .ok t) (hempty : t.chunks = [])
    (hend : t.final = none) :
    verbCalculate env { cfg with sections := Function.update cfg.sections c (some path) } =
      verbCalculate env { cfg with sections := Function.update cfg.sections c none } := by
  have hlinux : ∀ v, Function.update cfg.sections c v .linux = cfg.sections .linux :=
    fun v => Function.update_noteq (Ne.symm hc) v cfg.sections
  have hpcr : measurePcr env { cfg with sections := Function.update cfg.sections c (some path) } =
      measurePcr env { cfg with sections := Function.update cfg.sections c none } := by
    funext states
    simp only [measurePcr,
      measureSections_update_empty env cfg.sections (measureSection_empty env ht hempty hend)]
  simp only [verbCalculate, hlinux, hpcr]

/-- An empty `.initrd` file next to the kernel of `helloEnv`. -/
def emptyTrace : ReadTrace := ⟨[], none, by decide, by decide⟩

theorem verbCalculate_empty_eq_omitted_initrd :
    UnifiedSection.initrd ≠ .linux ∧
    (⟨helloEnv.getDigestByName, fun p => if p = "initrd" then .ok emptyTrace else helloEnv.openFile p,
        helloEnv.readVirtualFile, helloEnv.buffer⟩ : MeasureEnv).openFile "initrd" = .ok emptyTrace ∧
    emptyTrace.chunks = [] ∧ emptyTrace.final = none ∧
    verbCalculate ⟨helloEnv.getDigestByName,
        fun p => if p = "initrd" then .ok emptyTrace else helloEnv.openFile p,
        helloEnv.readVirtualFile, helloEnv.buffer⟩
        { helloCfg with sections := Function.update helloCfg.sections .initrd (some "initrd") } =
      verbCalculate ⟨helloEnv.getDigestByName,
        fun p => if p = "initrd" then .ok emptyTrace else helloEnv.openFile p,
        helloEnv.readVirtualFile, helloEnv.buffer⟩
        { helloCfg with sections := Function.update helloCfg.sections .initrd none } :=
  ⟨by decide, rfl, rfl, rfl, verbCalculate_empty_eq_omitted _ helloCfg .initrd (by decide) "initrd"
    emptyTrace rfl rfl rfl⟩

end Stubble.Proofs
