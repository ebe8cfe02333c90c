import Stubble.Status
import Stubble.Proofs.PcrEngine

/-!
# What `measure status` prints

A run of `verb_status` as the steps it takes: `validate_stub`'s checks, which write nothing but log
messages, then one pass of the bank loop for each relevant PCR and bank. On success the standard
output lists the values sysfs publishes, and the PCR descriptions on standard error follow the
first bank of `arg_banks` alone; `calculate --current` prints the beginning of what `status`
prints; and the bank check refuses exactly the platforms with none of the selected banks.
-/

namespace Stubble.Proofs

/-! ## Runs of steps -/

/-- The events a step prints when it succeeds. -/
def okEvents : Except Failure (List Event) → List Event
  | .ok evs => evs
  | .error _ => []

/-- A run that ends well ran every step to success and printed what each printed. -/
lemma runSteps_ok {steps : List (Except Failure (List Event))} (h : (runSteps steps).2 = .ok ()) :
    (∀ s ∈ steps, ∃ evs, s = .ok evs) ∧ (runSteps steps).1 = steps.flatMap okEvents := by
  induction steps with
  | nil => exact ⟨by simp, rfl⟩
  | cons s steps ih =>
    cases s with
    | error f => cases h
    | ok evs =>
      obtain ⟨hall, hev⟩ := ih h
      refine ⟨?_, by rw [runSteps, hev]; rfl⟩
      rintro s (_ | ⟨_, hs⟩)
      exacts [⟨evs, rfl⟩, hall s hs]

/-- The text a run writes to standard output. -/
def stdoutOf (evs : List Event) : List String :=
  evs.filterMap fun | .stdout t => some t | _ => none

/-- The text a run writes to standard error, its log messages apart. -/
def stderrOf (evs : List Event) : List String :=
  evs.filterMap fun | .stderr t => some t | _ => none

@[simp] lemma stdoutOf_append (a b : List Event) : stdoutOf (a ++ b) = stdoutOf a ++ stdoutOf b :=
  List.filterMap_append _ _ _

@[simp] lemma stderrOf_append (a b : List Event) : stderrOf (a ++ b) = stderrOf a ++ stderrOf b :=
  List.filterMap_append _ _ _

lemma stdoutOf_flatMap {α : Type} (l : List α) (f : α → List Event) :
    stdoutOf (l.flatMap f) = l.flatMap fun a => stdoutOf (f a) :=
  List.filterMap_flatMap _ _ _

lemma stderrOf_flatMap {α : Type} (l : List α) (f : α → List Event) :
    stderrOf (l.flatMap f) = l.flatMap fun a => stderrOf (f a) :=
  List.filterMap_flatMap _ _ _

/-- A step that writes neither to standard output nor to standard error: at most log messages. -/
def Quiet (s : Except Failure (List Event)) : Prop :=
  stdoutOf (okEvents s) = [] ∧ stderrOf (okEvents s) = []

lemma quiet_flatMap {steps : List (Except Failure (List Event))} (h : ∀ s ∈ steps, Quiet s) :
    stdoutOf (steps.flatMap okEvents) = [] ∧ stderrOf (steps.flatMap okEvents) = [] := by
  simp only [stdoutOf, stderrOf, List.filterMap_flatMap, List.flatMap_eq_nil_iff]
  exact ⟨fun s hs => (h s hs).1, fun s hs => (h s hs).2⟩

variable (senv : StatusEnv)

/-! ## `validate_stub` -/

lemma compareReportedPcrNr_quiet (pcr : Nat) (varname description : String) :
    Quiet (compareReportedPcrNr senv pcr varname description) := by
  unfold compareReportedPcrNr
  split
  · split_ifs <;> exact ⟨rfl, rfl⟩
  · split
    · exact ⟨rfl, rfl⟩
    · split_ifs <;> exact ⟨rfl, rfl⟩

/-- `validate_stub` writes only log messages. -/
lemma validateStub_quiet (banks : List String) : ∀ s ∈ validateStubSteps senv banks, Quiet s := by
  simp only [validateStubSteps, List.mem_cons, List.mem_singleton, List.not_mem_nil, or_false]
  rintro s (rfl | rfl | rfl | rfl | rfl | rfl)
  · split_ifs <;> exact ⟨rfl, rfl⟩
  · rcases senv.efiStubGetFeatures with e | features
    · exact ⟨rfl, rfl⟩
    · dsimp only
      split_ifs <;> exact ⟨rfl, rfl⟩
  · exact compareReportedPcrNr_quiet senv _ _ _
  · exact compareReportedPcrNr_quiet senv _ _ _
  · exact compareReportedPcrNr_quiet senv _ _ _
  · rcases banksFound senv banks with f | found
    · exact ⟨rfl, rfl⟩
    · cases found <;> exact ⟨rfl, rfl⟩

/-! ## The bank loop -/

/-- The value sysfs publishes for a bank's PCR `nr`, decoded: `none` when there is no readable
file or its text does not decode. -/
def sysfsValue (nr : Nat) (bank : String) : Option (List UInt8) :=
  match senv.readVirtualFile (pcrFile (asciiStrlower bank) nr) with
  | .ok s => (unhexmem (strstrip s)).toOption
  | .error _ => none

/-- A pass of the bank loop that goes on prints the bank's line when sysfs has its value, after
the PCR's description for the first bank. -/
lemma statusBank_output {nr : Nat} {description : String} {first : Bool} {bank : String}
    (hok : ∃ evs, statusBank senv nr description first bank = .ok evs) :
    stdoutOf (okEvents (statusBank senv nr description first bank)) =
        ((sysfsValue senv nr bank).map (valueLine nr (asciiStrlower bank))).toList ∧
      stderrOf (okEvents (statusBank senv nr description first bank)) =
        if first then ((sysfsValue senv nr bank).map (descriptionLine senv nr description)).toList
        else [] := by
  obtain ⟨evs, h⟩ := hok
  unfold statusBank at h ⊢
  unfold sysfsValue
  dsimp only at h ⊢
  rcases hr : senv.readVirtualFile (pcrFile (asciiStrlower bank) nr) with e | s <;>
    simp only [hr] at h ⊢
  · split_ifs <;> exact ⟨rfl, rfl⟩
  · rcases hv : unhexmem (strstrip s) with e | v <;> simp only [hv] at h ⊢
    · cases h
    · cases first <;> exact ⟨rfl, rfl⟩

/-- The bank loop of one PCR, run to its end: the lines of the banks whose value sysfs has, and
the PCR's description when the first bank is among them. -/
lemma statusPcr_output (nr : Nat) (description : String) (banks : List String)
    (hok : ∀ s ∈ statusPcr senv nr description banks, ∃ evs, s = .ok evs) :
    stdoutOf ((statusPcr senv nr description banks).flatMap okEvents) =
        banks.filterMap (fun b => (sysfsValue senv nr b).map (valueLine nr (asciiStrlower b))) ∧
      stderrOf ((statusPcr senv nr description banks).flatMap okEvents) =
        (banks.head?.bind fun b => (sysfsValue senv nr b).map (descriptionLine senv nr description)).toList := by
  cases banks with
  | nil => exact ⟨rfl, rfl⟩
  | cons b bs =>
    have hb := statusBank_output senv (hok _ (List.mem_cons_self _ _))
    have hbs : ∀ b' ∈ bs, ∃ evs, statusBank senv nr description false b' = .ok evs :=
      fun b' hb' => hok _ (List.mem_cons_of_mem _ (List.mem_map_of_mem _ hb'))
    have hrest : ∀ b' ∈ bs,
        stdoutOf (okEvents (statusBank senv nr description false b')) =
          ((sysfsValue senv nr b').map (valueLine nr (asciiStrlower b'))).toList ∧
        stderrOf (okEvents (statusBank senv nr description false b')) = [] :=
      fun b' hb' => statusBank_output senv (hbs b' hb')
    simp only [statusPcr, List.flatMap_cons, List.flatMap_map, stdoutOf_append, stderrOf_append,
      hb.1, hb.2, if_true, List.head?_cons, Option.some_bind, List.filterMap_eq_flatMap_toList]
    rw [stdoutOf_flatMap, stderrOf_flatMap]
    exact ⟨congrArg _ (List.flatMap_congr fun b' hb' => (hrest b' hb').1),
      by rw [List.flatMap_eq_nil_iff.mpr fun b' hb' => (hrest b' hb').2, List.append_nil]⟩

/-! ## What `verb_status` prints -/

lemma statusPcr_ok_of_verbStatus {banks : List String} (h : (verbStatus senv banks).2 = .ok ())
    {p : Nat × String} (hp : p ∈ relevantPcrs) :
    ∀ s ∈ statusPcr senv p.1 p.2 banks, ∃ evs, s = .ok evs :=
  fun s hs => (runSteps_ok h).1 s (List.mem_append_right _ (List.mem_flatMap.mpr ⟨p, hp, hs⟩))

lemma verbStatus_events {banks : List String} (h : (verbStatus senv banks).2 = .ok ()) :
    stdoutOf (verbStatus senv banks).1 =
        relevantPcrs.flatMap (fun p => stdoutOf ((statusPcr senv p.1 p.2 banks).flatMap okEvents)) ∧
      stderrOf (verbStatus senv banks).1 =
        relevantPcrs.flatMap (fun p => stderrOf ((statusPcr senv p.1 p.2 banks).flatMap okEvents)) := by
  unfold verbStatus at h ⊢
  obtain ⟨hv1, hv2⟩ := quiet_flatMap (validateStub_quiet senv banks)
  rw [(runSteps_ok h).2, List.flatMap_append, List.flatMap_assoc, stdoutOf_append,
    stderrOf_append, hv1, hv2, stdoutOf_flatMap, stderrOf_flatMap, List.nil_append, List.nil_append]
  exact ⟨rfl, rfl⟩

/-- A platform whose TPM exposes only the SHA256 bank, with a value of PCR 11 and PCR 12 unset,
no stub variables and every stub feature. -/
def sha256OnlyPlatform : StatusEnv :=
  ⟨true, .ok 31, fun _ => .error Errno.ENOENT, fun _ => .error Errno.EINVAL,
    fun p => if p = pcrBankDir "sha256" then none else some Errno.ENOENT,
    fun p => if p = pcrFile "sha256" 11 then
        .ok "2a2a2a2a2a2a2a2a2a2a2a2a2a2a2a2a2a2a2a2a2a2a2a2a2a2a2a2a2a2a2a2a\n"
      else if p = pcrFile "sha256" 12 then .ok "00\n" else .error Errno.ENOENT, "", ""⟩

/-- When `verb_status` succeeds, its standard output lists, PCR after PCR (11, 12, 13) and bank
after bank in the order of `arg_banks`, `nr:bank=hex` for exactly the banks whose sysfs file for
that PCR exists: the bank lowercased, and the value decoded from the file's text written back as
lowercase hexadecimal. -/
theorem verbStatus_stdout (banks : List String) (h : (verbStatus senv banks).2 = .ok ()) :
    stdoutOf (verbStatus senv banks).1 =
      relevantPcrs.flatMap fun p => banks.filterMap fun b =>
        (sysfsValue senv p.1 b).map (valueLine p.1 (asciiStrlower b)) := by
  rw [(verbStatus_events senv h).1]
  exact List.flatMap_congr fun p hp =>
    (statusPcr_output senv p.1 p.2 banks (statusPcr_ok_of_verbStatus senv h hp)).1

theorem verbStatus_stdout_sha256Only :
    (verbStatus sha256OnlyPlatform ["SHA1", "SHA256"]).2 = .ok () ∧
    stdoutOf (verbStatus sha256OnlyPlatform ["SHA1", "SHA256"]).1 =
      relevantPcrs.flatMap fun p => ["SHA1", "SHA256"].filterMap fun b =>
        (sysfsValue sha256OnlyPlatform p.1 b).map (valueLine p.1 (asciiStrlower b)) := by
  have h : (verbStatus sha256OnlyPlatform ["SHA1", "SHA256"]).2 = .ok () := by
    rfl
  exact ⟨h, verbStatus_stdout _ _ h⟩

/-- When `verb_status` succeeds, what it writes to standard error besides log messages is, PCR
after PCR, that PCR's description exactly when the first bank of `arg_banks` has a value for it in
sysfs: a PCR whose first bank's file is missing gets no description, even when the lines of later
banks are printed for it. -/
theorem verbStatus_stderr (banks : List String) (h : (verbStatus senv banks).2 = .ok ()) :
    stderrOf (verbStatus senv banks).1 =
      relevantPcrs.filterMap fun p => banks.head?.bind fun b =>
        (sysfsValue senv p.1 b).map (descriptionLine senv p.1 p.2) := by
  rw [(verbStatus_events senv h).2, List.filterMap_eq_flatMap_toList]
  exact List.flatMap_congr fun p hp =>
    (statusPcr_output senv p.1 p.2 banks (statusPcr_ok_of_verbStatus senv h hp)).2

theorem verbStatus_stderr_sha256Only :
    (verbStatus sha256OnlyPlatform ["SHA1", "SHA256"]).2 = .ok () ∧
    stderrOf (verbStatus sha256OnlyPlatform ["SHA1", "SHA256"]).1 =
      relevantPcrs.filterMap fun p => ["SHA1", "SHA256"].head?.bind fun b =>
        (sysfsValue sha256OnlyPlatform p.1 b).map (descriptionLine sha256OnlyPlatform p.1 p.2) := by
  have h : (verbStatus sha256OnlyPlatform ["SHA1", "SHA256"]).2 = .ok () := by
    rfl
  exact ⟨h, verbStatus_stderr _ _ h⟩

/-- With the default bank order, a platform without a SHA1 bank gets its values but no
description. -/
example : stdoutOf (verbStatus sha256OnlyPlatform ["SHA1", "SHA256"]).1 =
      ["11:sha256=2a2a2a2a2a2a2a2a2a2a2a2a2a2a2a2a2a2a2a2a2a2a2a2a2a2a2a2a2a2a2a2a\n",
        "12:sha256=00\n"] ∧
    stderrOf (verbStatus sha256OnlyPlatform ["SHA1", "SHA256"]).1 = [] :=
  ⟨rfl, rfl⟩

/-! ## `calculate --current` and `status` -/

lemma pcrPath_eq_pcrFile (bank : String) : pcrPath bank = pcrFile bank tpmPcrIndexKernelImage := by
  simp only [pcrPath, pcrFile, pcrBankDir, String.append_assoc]

lemma filterMap_of_forall₂ {α β γ : Type} {g : α → Option γ} {k : β → γ} {l : List α} {r : List β}
    (h : List.Forall₂ (fun a b => g a = some (k b)) l r) : l.filterMap g = r.map k := by
  induction h with
  | nil => rfl
  | cons hab _ ih => simp only [List.filterMap_cons, hab, ih, List.map_cons]

lemma forall₂_comp_mem {α β γ : Type} {R : α → β → Prop} {S : β → γ → Prop} {T : α → γ → Prop}
    {l₁ : List α} {l₂ : List β} {l₃ : List γ} (hRS : ∀ a ∈ l₁, ∀ b c, R a b → S b c → T a c)
    (h₁ : List.Forall₂ R l₁ l₂) (h₂ : List.Forall₂ S l₂ l₃) : List.Forall₂ T l₁ l₃ := by
  induction h₁ generalizing l₃ with
  | nil => cases h₂; exact .nil
  | cons hab _ ih =>
    cases h₂ with
    | cons hbc h₂ =>
      exact .cons (hRS _ (List.mem_cons_self _ _) _ _ hab hbc)
        (ih (fun a ha => hRS a (List.mem_cons_of_mem _ ha)) h₂)

section Current
variable (env : MeasureEnv)

/-- A bank `verb_calculate --current` adopts, looked up by OpenSSL's own name for it, prints the
line `verb_status` prints for it and PCR 11 when both read the same sysfs. -/
lemma currentBank_line (hsys : senv.readVirtualFile = env.readVirtualFile) {d : String}
    (hname : ∀ md, env.getDigestByName d = some md → md.name = d) {s f : PcrState}
    (hs : pcrStateOfBank env d = .ok s) (hf : measureCurrentBank env s = .ok f) :
    (sysfsValue senv tpmPcrIndexKernelImage d).map
        (valueLine tpmPcrIndexKernelImage (asciiStrlower d)) =
      some (valueLine tpmPcrIndexKernelImage f.bank (f.value.take f.valueSize)) := by
  obtain ⟨md, hmd, rfl, -⟩ := pcrStateOfBank_eq_ok env hs
  obtain ⟨text, hread, hdec, hlen, hf'⟩ := measureCurrentBank_eq_ok env hf
  rw [hname md hmd, pcrPath_eq_pcrFile] at hread
  rw [hf'] at hlen ⊢
  dsimp only at hlen ⊢
  rw [← hlen, List.take_length, hname md hmd]
  simp only [sysfsValue, hsys, hread, hdec, Except.toOption, Option.map_some']

/-- In `--current` mode, on banks named as OpenSSL names them, the lines `verb_calculate` prints are
those `verb_status` prints for PCR 11 when both read the same sysfs. -/
lemma verbCalculateLines_current {cfg : Config} (hcur : cfg.current = true)
    (hsys : senv.readVirtualFile = env.readVirtualFile)
    (hnames : ∀ d ∈ cfg.banks, ∀ md, env.getDigestByName d = some md → md.name = d)
    {finals : List PcrState} (hcalc : verbCalculate env cfg = .ok finals) :
    verbCalculateLines finals = cfg.banks.filterMap fun b =>
      (sysfsValue senv tpmPcrIndexKernelImage b).map
        (valueLine tpmPcrIndexKernelImage (asciiStrlower b)) := by
  unfold verbCalculate at hcalc
  rw [if_neg (by simp [hcur])] at hcalc
  obtain ⟨states, hst, hm⟩ := except_bind_eq_ok.mp hcalc
  simp only [measurePcr, hcur, if_true] at hm
  split_ifs at hm
  rw [mapM_eq_ok_iff_forall₂] at hst hm
  have hlines : List.Forall₂ (fun d f => (sysfsValue senv tpmPcrIndexKernelImage d).map
      (valueLine tpmPcrIndexKernelImage (asciiStrlower d)) =
        some (valueLine tpmPcrIndexKernelImage f.bank (f.value.take f.valueSize))) cfg.banks finals :=
    forall₂_comp_mem (fun d hd s f (hs : pcrStateOfBank env d = .ok s)
      (hf : measureCurrentBank env s = .ok f) => currentBank_line senv env hsys (hnames d hd) hs hf) hst hm
  rw [filterMap_of_forall₂ hlines]
  rfl

/-- `measure calculate --current` prints the beginning of what `measure status` prints, when both
succeed on the same sysfs with banks named as OpenSSL names them (as `parse_argv` leaves them): one
line for each bank, its PCR 11 value as the kernel publishes it. -/
theorem verbCalculate_current_prefix_status (cfg : Config) (hcur : cfg.current = true)
    (hsys : senv.readVirtualFile = env.readVirtualFile)
    (hnames : ∀ d ∈ cfg.banks, ∀ md, env.getDigestByName d = some md → md.name = d)
    (finals : List PcrState) (hcalc : verbCalculate env cfg = .ok finals)
    (hstatus : (verbStatus senv cfg.banks).2 = .ok ()) :
    verbCalculateLines finals <+: stdoutOf (verbStatus senv cfg.banks).1 := by
  have hok := statusPcr_ok_of_verbStatus senv hstatus
    (show (tpmPcrIndexKernelImage, "Unified Kernel Image") ∈ relevantPcrs from List.mem_cons_self _ _)
  rw [verbCalculateLines_current senv env hcur hsys hnames hcalc, (verbStatus_events senv hstatus).1,
    relevantPcrs, List.flatMap_cons, (statusPcr_output senv _ _ _ hok).1]
  exact List.prefix_append _ _

/-- OpenSSL with SHA256 alone, reading the sysfs of `sha256OnlyPlatform`. -/
def sha256OnlyOpenssl : MeasureEnv :=
  ⟨fun d => if d = "SHA256" then some sha256Current else none, fun _ => .error Errno.ENOENT,
    sha256OnlyPlatform.readVirtualFile, []⟩

theorem verbCalculate_current_prefix_status_sha256 :
    ∃ finals, (⟨fun _ => none, ["SHA256"], true⟩ : Config).current = true ∧
      sha256OnlyPlatform.readVirtualFile = sha256OnlyOpenssl.readVirtualFile ∧
      (∀ d ∈ ["SHA256"], ∀ md, sha256OnlyOpenssl.getDigestByName d = some md → md.name = d) ∧
      verbCalculate sha256OnlyOpenssl ⟨fun _ => none, ["SHA256"], true⟩ = .ok finals ∧
      (verbStatus sha256OnlyPlatform ["SHA256"]).2 = .ok () ∧
      verbCalculateLines finals <+: stdoutOf (verbStatus sha256OnlyPlatform ["SHA256"]).1 := by
  obtain ⟨finals, hcalc⟩ : ∃ finals,
      verbCalculate sha256OnlyOpenssl ⟨fun _ => none, ["SHA256"], true⟩ = .ok finals :=
    ⟨_, rfl⟩
  have hnames : ∀ d ∈ ["SHA256"], ∀ md, sha256OnlyOpenssl.getDigestByName d = some md →
      md.name = d := by
    intro d hd md hmd
    obtain rfl := List.mem_singleton.mp hd
    obtain rfl := (Option.some.inj hmd).symm
    rfl
  have hstatus : (verbStatus sha256OnlyPlatform ["SHA256"]).2 = .ok () := by
    rfl
  exact ⟨finals, rfl, rfl, hnames, hcalc, hstatus, verbCalculate_current_prefix_status
    sha256OnlyPlatform sha256OnlyOpenssl ⟨fun _ => none, ["SHA256"], true⟩ rfl rfl hnames finals
    hcalc hstatus⟩

end Current

/-! ## The bank check of `validate_stub` -/

/-- The bank loop of `validate_stub` finds no bank exactly when `access` reports every bank's
directory missing. -/
lemma banksFound_eq_ok_false_iff (banks : List String) :
    banksFound senv banks = .ok false ↔
      ∀ b ∈ banks, senv.access (pcrBankDir (asciiStrlower b)) = some Errno.ENOENT := by
  induction banks with
  | nil => simp [banksFound]
  | cons b bs ih =>
    rw [List.forall_mem_cons, ← ih, banksFound]
    rcases senv.access (pcrBankDir (asciiStrlower b)) with _ | e
    · cases banksFound senv bs <;> simp [Functor.map, Except.map]
    · by_cases he : e = Errno.ENOENT
      · simp [he]
      · simp [he]

/-- Every message the bank loops log starts with `Failed`. -/
def FailedMessage (f : Failure) : Prop := f.message.data.head? = some 'F'

lemma failedMessage_log (e : Errno) (a b : String) (ha : a.data.head? = some 'F') :
    FailedMessage (logErrorErrno e (a ++ b)) := by
  rw [FailedMessage, logErrorErrno, String.data_append,
    List.head?_append_of_ne_nil _ (fun h => by simp [h] at ha), ha]

lemma banksFound_error {banks : List String} {f : Failure} (h : banksFound senv banks = .error f) :
    FailedMessage f := by
  induction banks with
  | nil => cases h
  | cons b bs ih =>
    rw [banksFound] at h
    split at h
    · cases hb : banksFound senv bs <;> simp only [hb, Functor.map, Except.map] at h
      · cases h; exact ih hb
      · cases h
    · split_ifs at h
      · exact ih h
      · cases h; exact failedMessage_log _ _ _ rfl

lemma statusBank_error {nr : Nat} {description : String} {first : Bool} {bank : String}
    {f : Failure} (h : statusBank senv nr description first bank = .error f) : FailedMessage f := by
  unfold statusBank at h
  dsimp only at h
  split at h
  · split_ifs at h
    cases h; exact failedMessage_log _ _ _ rfl
  · split at h
    · cases h; exact failedMessage_log _ _ _ rfl
    · cases h

lemma runSteps_error {steps : List (Except Failure (List Event))} {f : Failure}
    (h : (runSteps steps).2 = .error f) : .error f ∈ steps := by
  induction steps with
  | nil => cases h
  | cons s steps ih =>
    cases s with
    | error f' => cases h; exact List.mem_cons_self _ _
    | ok evs => exact List.mem_cons_of_mem _ (ih h)

lemma statusPcr_error {nr : Nat} {description : String} {banks : List String} {f : Failure}
    (h : .error f ∈ statusPcr senv nr description banks) : FailedMessage f := by
  cases banks with
  | nil => cases h
  | cons b bs =>
    rcases List.mem_cons.mp h with h | h
    · exact statusBank_error senv h.symm
    · obtain ⟨b', -, hb'⟩ := List.mem_map.mp h
      exact statusBank_error senv hb'

/-- A stub variable `compare_reported_pcr_nr` accepts: missing, or holding a number. -/
def StubVariableReadable (varname : String) : Prop :=
  senv.efiGetVariableString varname = .error Errno.ENOENT ∨
    ∃ s n, senv.efiGetVariableString varname = .ok s ∧ senv.safeAtou32 s = .ok n

lemma compareReportedPcrNr_ok {varname : String} (h : StubVariableReadable senv varname)
    (pcr : Nat) (description : String) :
    ∃ evs, compareReportedPcrNr senv pcr varname description = .ok evs := by
  unfold compareReportedPcrNr
  rcases h with h | ⟨s, n, hs, hn⟩
  · exact ⟨[], by rw [h]; rfl⟩
  · rw [hs]
    dsimp only
    rw [hn]
    exact ⟨_, rfl⟩

/-- Once the platform has full TPM2 support, the stub's features can be read and its three PCR
variables are missing or hold numbers, `verb_status` is refused with `EOPNOTSUPP` and "None of the
select PCR banks appear to exist." exactly when `access` reports the sysfs directory of every
selected bank missing. -/
theorem verbStatus_no_bank (banks : List String) (htpm : senv.tpm2SupportFull = true)
    (hfeat : ∃ features, senv.efiStubGetFeatures = .ok features)
    (hvars : ∀ name ∈ ["StubPcrKernelImage", "StubPcrKernelParameters", "StubPcrInitRDSysExts"],
      StubVariableReadable senv (efiLoaderVariable name)) :
    (verbStatus senv banks).2 =
        .error (logErrorErrno Errno.EOPNOTSUPP "None of the select PCR banks appear to exist.") ↔
      ∀ b ∈ banks, senv.access (pcrBankDir (asciiStrlower b)) = some Errno.ENOENT := by
  obtain ⟨features, hf⟩ := hfeat
  obtain ⟨e1, h1⟩ := compareReportedPcrNr_ok senv (hvars _ (List.mem_cons_self _ _))
    tpmPcrIndexKernelImage "kernel image"
  obtain ⟨e2, h2⟩ := compareReportedPcrNr_ok senv
    (hvars _ (List.mem_cons_of_mem _ (List.mem_cons_self _ _))) tpmPcrIndexKernelParameters
    "kernel parameters"
  obtain ⟨e3, h3⟩ := compareReportedPcrNr_ok senv
    (hvars _ (List.mem_cons_of_mem _ (List.mem_cons_of_mem _ (List.mem_cons_self _ _))))
    tpmPcrIndexInitrdSysexts "initrd system extension images"
  have hnone : ¬FailedMessage (logErrorErrno Errno.EOPNOTSUPP
      "None of the select PCR banks appear to exist.") := by
    unfold FailedMessage logErrorErrno
    decide
  rw [← banksFound_eq_ok_false_iff]
  unfold verbStatus validateStubSteps
  rw [htpm, if_pos rfl, hf, h1, h2, h3]
  simp only [List.cons_append, runSteps]
  rcases hb : banksFound senv banks with f | found
  · simp only [Except.bind, runSteps, reduceCtorEq, iff_false]
    intro h
    cases h
    exact hnone (banksFound_error senv hb)
  · cases found
    · simp only [Except.bind, Bool.false_eq_true, if_false, runSteps]
    · refine iff_of_false (fun h => ?_) (fun h => Bool.noConfusion (Except.ok.inj h))
      rcases List.mem_append.mp (runSteps_error h) with he | he
      · cases List.mem_singleton.mp he
      obtain ⟨p, -, hp⟩ := List.mem_flatMap.mp he
      exact hnone (statusPcr_error senv hp)

theorem verbStatus_no_bank_sha1 :
    sha256OnlyPlatform.tpm2SupportFull = true ∧
    (∃ features, sha256OnlyPlatform.efiStubGetFeatures = .ok features) ∧
    (∀ name ∈ ["StubPcrKernelImage", "StubPcrKernelParameters", "StubPcrInitRDSysExts"],
      StubVariableReadable sha256OnlyPlatform (efiLoaderVariable name)) ∧
    ((verbStatus sha256OnlyPlatform ["SHA1"]).2 =
        .error (logErrorErrno Errno.EOPNOTSUPP "None of the select PCR banks appear to exist.") ↔
      ∀ b ∈ ["SHA1"], sha256OnlyPlatform.access (pcrBankDir (asciiStrlower b)) = some Errno.ENOENT) :=
  ⟨rfl, ⟨31, rfl⟩, fun _ _ => .inl rfl,
    verbStatus_no_bank _ _ rfl ⟨31, rfl⟩ fun _ _ => .inl rfl⟩

end Stubble.Proofs
