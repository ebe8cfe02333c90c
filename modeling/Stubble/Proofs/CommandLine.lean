import Stubble.Proofs.PcrEngine
import Mathlib.Data.List.Sort

/-!
# From the command line to the registers

`parse_argv` checks every `--bank=` against OpenSSL, adds the default banks when none is given,
sorts the list and drops duplicates, and refuses `--current` while a section is set; an empty path
given to a section option resets that section. The
`assert_se` of `verb_calculate` relies on that check: outside `--current` mode no assertion of the
engine can fail on options `parse_argv` accepted.
-/

namespace Stubble.Proofs

/-! ## `strv_sort` and `strv_uniq` -/

section Banks

lemma strvSort_sorted (l : List String) : (strvSort l).Sorted (· ≤ ·) := by
  have h := @List.sorted_mergeSort String (fun a b => decide (a ≤ b))
    (fun a b c hab hbc => by simp only [decide_eq_true_eq] at *; exact hab.trans hbc)
    (fun a b => by simpa only [Bool.or_eq_true, decide_eq_true_eq] using le_total a b) l
  simpa only [decide_eq_true_eq] using h

@[simp] lemma mem_strvSort {a : String} {l : List String} : a ∈ strvSort l ↔ a ∈ l :=
  List.mem_mergeSort

@[simp] lemma mem_strvUniq {a : String} {l : List String} : a ∈ strvUniq l ↔ a ∈ l := by
  induction l with
  | nil => rfl
  | cons b l ih =>
    simp only [strvUniq, List.mem_cons, List.mem_filter, ih, bne_iff_ne, ne_eq]
    by_cases hab : a = b <;> simp [hab]

/-- Duplicates removed from a sorted list leave a strictly ascending one. -/
lemma strvUniq_sorted {l : List String} (h : l.Sorted (· ≤ ·)) : (strvUniq l).Sorted (· < ·) := by
  induction l with
  | nil => exact List.sorted_nil
  | cons a l ih =>
    rw [List.sorted_cons] at h
    refine List.sorted_cons.mpr ⟨fun b hb => ?_, (ih h.2).filter _⟩
    rw [List.mem_filter, mem_strvUniq, bne_iff_ne] at hb
    exact lt_of_le_of_ne (h.1 b hb.1) (Ne.symm hb.2)

end Banks

/-! ## The options `parse_argv` accepts -/

variable (env : MeasureEnv) (aenv : ArgvEnv)

/-- The canonical name a `--bank=` option adds to `arg_banks`, when OpenSSL knows the digest. -/
def bankNameOf : Opt → Option String
  | .bank name => (env.getDigestByName name).map Md.name
  | _ => none

/-- The canonical names of the banks the options ask for, in order. -/
def requestedBanks (opts : List Opt) : List String := opts.filterMap (bankNameOf env)

/-- The path an option gives for section `c`: `--linux=` and the like. -/
def sectionArg (c : UnifiedSection) : Opt → Option String
  | .sectionPath c' path => if c' = c then some path else none
  | _ => none

/-- The path of the last option naming section `c`. -/
def lastSectionArg (c : UnifiedSection) (opts : List Opt) : Option String :=
  (opts.filterMap (sectionArg c)).getLast?

lemma lastSectionArg_cons (c : UnifiedSection) (o : Opt) (os : List Opt) :
    lastSectionArg c (o :: os) = (lastSectionArg c os).or (sectionArg c o) := by
  unfold lastSectionArg
  cases ho : sectionArg c o with
  | none => simp only [List.filterMap_cons, ho, Option.or_none]
  | some p =>
    simp only [List.filterMap_cons, ho, List.getLast?_cons]
    cases (os.filterMap (sectionArg c)).getLast? <;> rfl

/-- `parse_path_argument` leaves the argument NULL exactly for an empty path. -/
lemma parsePathArgument_eq_ok_none {path : String} :
    parsePathArgument aenv path = .ok none ↔ path = "" := by
  by_cases hp : path = ""
  · simp [parsePathArgument, hp]
  · rw [parsePathArgument, if_neg hp]
    cases aenv.pathMakeAbsoluteCwd path <;> simp [hp]

/-- One option that lets `parse_argv` go on: it appends its bank, if any, and names a known digest
if it is a `--bank=`; a section option sets that section to what `parse_path_argument` makes of
its path, and leaves the others; `--current` sets `arg_current`. -/
lemma parseOption_some {cfg cfg' : Config} {o : Opt}
    (h : parseOption env aenv cfg o = .ok (some cfg')) :
    cfg'.banks = cfg.banks ++ (bankNameOf env o).toList ∧
      (∀ name, o = .bank name → (env.getDigestByName name).isSome) ∧
      (∀ c p, sectionArg c o = some p → parsePathArgument aenv p = .ok (cfg'.sections c)) ∧
      (∀ c, sectionArg c o = none → cfg'.sections c = cfg.sections c) ∧
      cfg'.current = (cfg.current || decide (o = .current)) := by
  cases o with
  | bank name =>
    simp only [parseOption] at h
    rcases hmd : env.getDigestByName name with _ | md <;> simp only [hmd, reduceCtorEq] at h
    cases h
    simp [bankNameOf, sectionArg, hmd]
  | sectionPath c path =>
    rcases hp : parsePathArgument aenv path with e | q <;>
      simp only [parseOption, hp, Except.map, reduceCtorEq, Except.ok.injEq, Option.some.injEq] at h
    cases h
    refine ⟨by simp [bankNameOf], by simp, fun c' p hs => ?_, fun c' hs => ?_, by simp⟩
    · obtain ⟨rfl, rfl⟩ : c = c' ∧ path = p := by simpa [sectionArg] using hs
      simpa using hp
    · have hc : c ≠ c' := fun hc => by simp [sectionArg, hc] at hs
      exact Function.update_noteq (Ne.symm hc) _ _
  | jsonArg arg =>
    rcases hj : aenv.parseJsonArgument arg with e | go <;>
      simp only [parseOption, hj, Except.map, reduceCtorEq, Except.ok.injEq] at h
    split_ifs at h
    cases h
    simp [bankNameOf, sectionArg]
  | unknown => cases h
  | help | version => cases h
  | noPager | current | json =>
    cases h
    simp [bankNameOf, sectionArg]

/-- The option loop, run to its end: the banks of the `--bank=` options appended, each section as
`parse_path_argument` made the last path given for it, the others unchanged, every path given
accepted, and `--current` set when given. -/
lemma parseOptions_some {opts : List Opt} {cfg cfg' : Config}
    (h : parseOptions env aenv opts cfg = .ok (some cfg')) :
    cfg'.banks = cfg.banks ++ requestedBanks env opts ∧
      (∀ name, Opt.bank name ∈ opts → (env.getDigestByName name).isSome) ∧
      (∀ c p, lastSectionArg c opts = some p → parsePathArgument aenv p = .ok (cfg'.sections c)) ∧
      (∀ c, lastSectionArg c opts = none → cfg'.sections c = cfg.sections c) ∧
      (∀ c path, Opt.sectionPath c path ∈ opts → ∃ q, parsePathArgument aenv path = .ok q) ∧
      cfg'.current = (cfg.current || decide (Opt.current ∈ opts)) := by
  induction opts generalizing cfg with
  | nil =>
    cases h
    simp [requestedBanks, lastSectionArg]
  | cons o os ih =>
    obtain ⟨r, hr, hos⟩ := except_bind_eq_ok.mp h
    rcases r with _ | cfg₁
    · cases hos
    obtain ⟨hb, hknown, hset, hkeep, hcur⟩ := parseOption_some env aenv hr
    obtain ⟨hb', hknown', hset', hkeep', hpath', hcur'⟩ := ih hos
    refine ⟨?_, fun name hmem => ?_, fun c p hl => ?_, fun c hl => ?_, fun c path hmem => ?_, ?_⟩
    · rw [hb', hb]
      simp only [requestedBanks, List.filterMap_cons]
      cases bankNameOf env o <;> simp
    · rcases List.mem_cons.mp hmem with rfl | hmem
      exacts [hknown name rfl, hknown' name hmem]
    · rw [lastSectionArg_cons] at hl
      rcases hlos : lastSectionArg c os with _ | p'
      · rw [hlos, Option.none_or] at hl
        rw [hkeep' c hlos]
        exact hset c p hl
      · rw [hlos, Option.or_some, Option.some.injEq] at hl
        exact hl ▸ hset' c p' hlos
    · rw [lastSectionArg_cons, Option.or_eq_none] at hl
      rw [hkeep' c hl.1, hkeep c hl.2]
    · rcases List.mem_cons.mp hmem with rfl | hmem
      exacts [⟨_, hset c path (by simp [sectionArg])⟩, hpath' c path hmem]
    · simp only [hcur', hcur, List.mem_cons, Bool.decide_or, Bool.or_assoc,
        decide_eq_decide.mpr eq_comm]

lemma UnifiedSection.mem_all (c : UnifiedSection) : c ∈ UnifiedSection.all := by
  cases c <;> decide

/-- What `parse_argv` returns when the program goes on to a verb: the banks asked for, or the
defaults, sorted and without duplicates; every `--bank=` known to OpenSSL; and no section with
`--current`. -/
lemma parseArgv_some {opts : List Opt} {cfg : Config}
    (h : parseArgv env aenv opts = .ok (some cfg)) :
    cfg.banks = strvUniq (strvSort (if requestedBanks env opts = [] then defaultBanks
      else requestedBanks env opts)) ∧
    (∀ name, Opt.bank name ∈ opts → (env.getDigestByName name).isSome) ∧
    (cfg.current = true → ∀ c, cfg.sections c = none) := by
  obtain ⟨r, hr, hcfg⟩ := except_bind_eq_ok.mp h
  rcases r with _ | cfg₁
  · cases hcfg
  obtain ⟨hb, hknown, -⟩ := parseOptions_some env aenv hr
  simp only [Config.initial, List.nil_append] at hb
  dsimp only at hcfg
  by_cases hcur : cfg₁.current = true ∧
      UnifiedSection.all.any (fun us => (cfg₁.sections us).isSome) = true
  · rw [if_pos hcur] at hcfg
    cases hcfg
  rw [if_neg hcur] at hcfg
  cases hcfg
  refine ⟨by simp [hb, List.isEmpty_iff], hknown, fun hc c => ?_⟩
  by_contra hne
  exact hcur ⟨hc, List.any_eq_true.mpr
    ⟨c, UnifiedSection.mem_all c, Option.isSome_iff_ne_none.mpr hne⟩⟩

lemma parseArgv_banks_ne_nil {opts : List Opt} {cfg : Config}
    (h : parseArgv env aenv opts = .ok (some cfg)) : cfg.banks ≠ [] := by
  have hne : (if requestedBanks env opts = [] then defaultBanks else requestedBanks env opts) ≠ [] := by
    split_ifs with hreq
    exacts [List.cons_ne_nil _ _, hreq]
  obtain ⟨d, hd⟩ := List.exists_mem_of_ne_nil _ hne
  rw [(parseArgv_some env aenv h).1]
  exact List.ne_nil_of_mem (mem_strvUniq.2 (mem_strvSort.2 hd))

lemma sorted_banks_of_parseArgv {opts : List Opt} {cfg : Config}
    (h : parseArgv env aenv opts = .ok (some cfg)) : cfg.banks.Sorted (· < ·) :=
  (parseArgv_some env aenv h).1 ▸ strvUniq_sorted (strvSort_sorted _)

/-- The banks `parse_argv` settles on are the digests asked for, or the defaults. -/
lemma mem_banks_of_parseArgv {opts : List Opt} {cfg : Config}
    (h : parseArgv env aenv opts = .ok (some cfg)) (d : String) :
    d ∈ cfg.banks ↔
      if requestedBanks env opts = [] then d ∈ defaultBanks else d ∈ requestedBanks env opts := by
  rw [(parseArgv_some env aenv h).1, mem_strvUniq, mem_strvSort]
  exact iff_of_eq (apply_ite (fun l : List String => d ∈ l) (requestedBanks env opts = []) _ _)

/-- Whatever options `parse_argv` accepts, the banks `verb_calculate` works on are strictly ascending
in `strcmp` order, so free of duplicates, and not empty: exactly the canonical names OpenSSL gives
the digests of the `--bank=` options, or the four defaults when there is none. Every `--bank=`
names a digest OpenSSL knows, and with `--current` no section is set. -/
theorem parseArgv_banks (opts : List Opt) (cfg : Config)
    (h : parseArgv env aenv opts = .ok (some cfg)) :
    cfg.banks.Sorted (· < ·) ∧ cfg.banks ≠ [] ∧
    (∀ d, d ∈ cfg.banks ↔
      if requestedBanks env opts = [] then d ∈ defaultBanks else d ∈ requestedBanks env opts) ∧
    (∀ name, Opt.bank name ∈ opts → (env.getDigestByName name).isSome) ∧
    (cfg.current = true → ∀ c, cfg.sections c = none) :=
  ⟨sorted_banks_of_parseArgv env aenv h, parseArgv_banks_ne_nil env aenv h,
    mem_banks_of_parseArgv env aenv h, (parseArgv_some env aenv h).2⟩

/-- One `--bank=SHA256`, for OpenSSL knowing `lenDigest` under that name. -/
def sha256Env : MeasureEnv :=
  ⟨fun d => if d = "SHA256" then some { lenDigest with name := "SHA256" } else none,
    fun _ => .error Errno.ENOENT, fun _ => .error Errno.ENOENT, []⟩

/-- Helpers that take every path as absolute already and accept every `--json=` argument. -/
def acceptingArgv : ArgvEnv := ⟨fun p => .ok p, fun _ => .ok true⟩

theorem parseArgv_banks_sha256 :
    parseArgv sha256Env acceptingArgv [.bank "SHA256", .bank "SHA256"] =
      .ok (some ⟨fun _ => none, ["SHA256"], false⟩) ∧
    (["SHA256"] : List String).Sorted (· < ·) ∧ (["SHA256"] : List String) ≠ [] ∧
    (∀ d, d ∈ (["SHA256"] : List String) ↔
      if requestedBanks sha256Env [.bank "SHA256", .bank "SHA256"] = [] then d ∈ defaultBanks
      else d ∈ requestedBanks sha256Env [.bank "SHA256", .bank "SHA256"]) ∧
    (∀ name, Opt.bank name ∈ [Opt.bank "SHA256", .bank "SHA256"] →
      (sha256Env.getDigestByName name).isSome) ∧
    (false = true → ∀ c : UnifiedSection, (fun _ => none : UnifiedSection → Option String) c = none) := by
  have h : parseArgv sha256Env acceptingArgv [.bank "SHA256", .bank "SHA256"] =
      .ok (some ⟨fun _ => none, ["SHA256"], false⟩) := by
    simp [parseArgv, parseOptions, parseOption, sha256Env, Config.initial, strvSort, strvUniq, Except.bind,
      List.mergeSort, UnifiedSection.all]
  exact ⟨h, parseArgv_banks sha256Env acceptingArgv _ _ h⟩

/-! ## The sections and `--current` -/

/-- On a command line `parse_argv` accepts, the sections and `--current` are those the option loop
set from the initial options. -/
lemma parseArgv_options {opts : List Opt} {cfg : Config}
    (h : parseArgv env aenv opts = .ok (some cfg)) :
    (∀ c p, lastSectionArg c opts = some p → parsePathArgument aenv p = .ok (cfg.sections c)) ∧
    (∀ c, lastSectionArg c opts = none → cfg.sections c = none) ∧
    (∀ c path, Opt.sectionPath c path ∈ opts → ∃ q, parsePathArgument aenv path = .ok q) ∧
    cfg.current = decide (Opt.current ∈ opts) := by
  obtain ⟨r, hr, hcfg⟩ := except_bind_eq_ok.mp h
  rcases r with _ | cfg₁
  · cases hcfg
  obtain ⟨-, -, hset, hkeep, hpath, hcur⟩ := parseOptions_some env aenv hr
  dsimp only at hcfg
  split_ifs at hcfg <;> cases hcfg <;>
    exact ⟨hset, hkeep, hpath, by simpa [Config.initial] using hcur⟩

/-- Whatever options `parse_argv` accepts, each section is what `parse_path_argument` made of the
path of the last option naming it (NULL for an empty path), and NULL when no option names it;
every path given was accepted; `--current` is on exactly when given, and then the last path given
for each section is empty. -/
theorem parseArgv_sections (opts : List Opt) (cfg : Config)
    (h : parseArgv env aenv opts = .ok (some cfg)) :
    (∀ c p, lastSectionArg c opts = some p → parsePathArgument aenv p = .ok (cfg.sections c)) ∧
    (∀ c, lastSectionArg c opts = none → cfg.sections c = none) ∧
    (∀ c path, Opt.sectionPath c path ∈ opts → ∃ q, parsePathArgument aenv path = .ok q) ∧
    (cfg.current = true ↔ Opt.current ∈ opts) ∧
    (Opt.current ∈ opts → ∀ c p, lastSectionArg c opts = some p → p = "") := by
  obtain ⟨hset, hkeep, hpath, hcur⟩ := parseArgv_options env aenv h
  refine ⟨hset, hkeep, hpath, by rw [hcur, decide_eq_true_iff], fun hmem c p hl => ?_⟩
  have hnone := (parseArgv_some env aenv h).2.2 (hcur ▸ decide_eq_true hmem) c
  exact (parsePathArgument_eq_ok_none aenv).mp (hnone ▸ hset c p hl)

/-- `--bank=SHA256 --current --linux=/a --linux=`: the empty path resets the kernel image. -/
def currentResetOpts : List Opt :=
  [.bank "SHA256", .current, .sectionPath .linux "/a", .sectionPath .linux ""]

theorem parseArgv_sections_currentReset :
    parseArgv sha256Env acceptingArgv currentResetOpts =
      .ok (some ⟨fun _ => none, ["SHA256"], true⟩) ∧
    (∀ c p, lastSectionArg c currentResetOpts = some p →
      parsePathArgument acceptingArgv p = .ok ((fun _ => none : UnifiedSection → Option String) c)) ∧
    (∀ c, lastSectionArg c currentResetOpts = none →
      (fun _ => none : UnifiedSection → Option String) c = none) ∧
    (∀ c path, Opt.sectionPath c path ∈ currentResetOpts →
      ∃ q, parsePathArgument acceptingArgv path = .ok q) ∧
    (true = true ↔ Opt.current ∈ currentResetOpts) ∧
    (Opt.current ∈ currentResetOpts → ∀ c p, lastSectionArg c currentResetOpts = some p → p = "") := by
  have h : parseArgv sha256Env acceptingArgv currentResetOpts =
      .ok (some ⟨fun _ => none, ["SHA256"], true⟩) := by
    simp [parseArgv, parseOptions, parseOption, parsePathArgument, currentResetOpts, sha256Env,
      acceptingArgv, Config.initial, strvSort, strvUniq, Except.bind, Except.map, List.mergeSort,
      UnifiedSection.all]
  exact ⟨h, parseArgv_sections sha256Env acceptingArgv _ _ h⟩

/-! ## What the configuration depends on -/

/-- Two strictly sorted lists with the same members are equal. -/
lemma eq_of_sorted_of_mem_iff {l l' : List String} (hs : l.Sorted (· < ·)) (hs' : l'.Sorted (· < ·))
    (h : ∀ d, d ∈ l ↔ d ∈ l') : l = l' :=
  List.eq_of_perm_of_sorted ((List.perm_ext_iff_of_nodup hs.nodup hs'.nodup).mpr h) hs hs'

/-- The configuration `parse_argv` returns depends only on the set of digest names the `--bank=`
options give, on the last path given for each section, and on whether `--current` was given:
reordering or repeating `--bank=` options, or giving a section a path a later option replaces,
changes nothing `verb_calculate` or `verb_status` sees. -/
theorem parseArgv_eq_of_summary (opts opts' : List Opt) (cfg cfg' : Config)
    (h : parseArgv env aenv opts = .ok (some cfg)) (h' : parseArgv env aenv opts' = .ok (some cfg'))
    (hbanks : ∀ d, d ∈ requestedBanks env opts ↔ d ∈ requestedBanks env opts')
    (hsec : ∀ c, lastSectionArg c opts = lastSectionArg c opts')
    (hcur : Opt.current ∈ opts ↔ Opt.current ∈ opts') : cfg = cfg' := by
  have hnil : requestedBanks env opts = [] ↔ requestedBanks env opts' = [] := by
    simp only [List.eq_nil_iff_forall_not_mem, hbanks]
  have hb : cfg.banks = cfg'.banks := by
    refine eq_of_sorted_of_mem_iff (sorted_banks_of_parseArgv env aenv h)
      (sorted_banks_of_parseArgv env aenv h') fun d => ?_
    rw [mem_banks_of_parseArgv env aenv h, mem_banks_of_parseArgv env aenv h']
    by_cases hn : requestedBanks env opts = []
    · rw [if_pos hn, if_pos (hnil.mp hn)]
    · rw [if_neg hn, if_neg (mt hnil.mpr hn), hbanks]
  obtain ⟨hset₁, hkeep₁, -, hcur₁⟩ := parseArgv_options env aenv h
  obtain ⟨hset₂, hkeep₂, -, hcur₂⟩ := parseArgv_options env aenv h'
  cases cfg
  cases cfg'
  dsimp only at hset₁ hkeep₁ hset₂ hkeep₂ hcur₁ hcur₂ hb
  congr 1
  · funext c
    rcases hl : lastSectionArg c opts with _ | p
    · rw [hkeep₁ c hl, hkeep₂ c ((hsec c).symm.trans hl)]
    · exact Except.ok.inj ((hset₁ c p hl).symm.trans (hset₂ c p ((hsec c).symm.trans hl)))
  · rw [hcur₁, hcur₂, decide_eq_decide.mpr hcur]

/-- `--bank=SHA256 --linux=a --linux=b`. -/
def linuxTwiceOpts : List Opt := [.bank "SHA256", .sectionPath .linux "a", .sectionPath .linux "b"]

/-- `--bank=SHA256 --linux=b`. -/
def linuxOnceOpts : List Opt := [.bank "SHA256", .sectionPath .linux "b"]

theorem parseArgv_eq_of_summary_linux :
    parseArgv sha256Env acceptingArgv linuxTwiceOpts =
      .ok (some ⟨Function.update (fun _ => none) .linux (some "b"), ["SHA256"], false⟩) ∧
    parseArgv sha256Env acceptingArgv linuxOnceOpts =
      .ok (some ⟨Function.update (fun _ => none) .linux (some "b"), ["SHA256"], false⟩) ∧
    (∀ d, d ∈ requestedBanks sha256Env linuxTwiceOpts ↔ d ∈ requestedBanks sha256Env linuxOnceOpts) ∧
    (∀ c, lastSectionArg c linuxTwiceOpts = lastSectionArg c linuxOnceOpts) ∧
    (Opt.current ∈ linuxTwiceOpts ↔ Opt.current ∈ linuxOnceOpts) ∧
    (⟨Function.update (fun _ => none) .linux (some "b"), ["SHA256"], false⟩ : Config) =
      ⟨Function.update (fun _ => none) .linux (some "b"), ["SHA256"], false⟩ := by
  have h : parseArgv sha256Env acceptingArgv linuxTwiceOpts =
      .ok (some ⟨Function.update (fun _ => none) .linux (some "b"), ["SHA256"], false⟩) := by
    simp [parseArgv, parseOptions, parseOption, parsePathArgument, linuxTwiceOpts, sha256Env,
      acceptingArgv, Config.initial, strvSort, strvUniq, Except.bind, Except.map, List.mergeSort,
      UnifiedSection.all]
  have h' : parseArgv sha256Env acceptingArgv linuxOnceOpts =
      .ok (some ⟨Function.update (fun _ => none) .linux (some "b"), ["SHA256"], false⟩) := by
    simp [parseArgv, parseOptions, parseOption, parsePathArgument, linuxOnceOpts, sha256Env,
      acceptingArgv, Config.initial, strvSort, strvUniq, Except.bind, Except.map, List.mergeSort,
      UnifiedSection.all]
  have hsec : ∀ c, lastSectionArg c linuxTwiceOpts = lastSectionArg c linuxOnceOpts := by
    intro c
    cases c <;> rfl
  have hbanks : ∀ d, d ∈ requestedBanks sha256Env linuxTwiceOpts ↔
      d ∈ requestedBanks sha256Env linuxOnceOpts := by
    simp [requestedBanks, linuxTwiceOpts, linuxOnceOpts, bankNameOf, sha256Env]
  have hcur : Opt.current ∈ linuxTwiceOpts ↔ Opt.current ∈ linuxOnceOpts := by
    decide
  exact ⟨h, h', hbanks, hsec, hcur,
    parseArgv_eq_of_summary sha256Env acceptingArgv _ _ _ _ h h' hbanks hsec hcur⟩

/-! ## How `parse_argv` ends -/

/-- What an option does to the option loop of `parse_argv`: fail, end the program successfully
(`false`), or let the loop go on (`true`); by `parseOption_verdict`, whatever options came
before it. -/
def optionVerdict (o : Opt) : Except Failure Bool :=
  (parseOption env aenv Config.initial o).map Option.isSome

/-- The verdict of the first option that does not let the loop go on; `true` when there is none. -/
def firstStop : List Opt → Except Failure Bool
  | [] => .ok true
  | o :: os =>
    match optionVerdict env aenv o with
    | .ok true => firstStop os
    | v => v

lemma parseOption_verdict (cfg : Config) (o : Opt) :
    (parseOption env aenv cfg o).map Option.isSome = optionVerdict env aenv o := by
  unfold optionVerdict
  cases o with
  | bank name => simp only [parseOption]; cases env.getDigestByName name <;> rfl
  | sectionPath c path => simp only [parseOption]; cases parsePathArgument aenv path <;> rfl
  | jsonArg arg => simp only [parseOption]; rcases aenv.parseJsonArgument arg with _ | _ | _ <;> rfl
  | _ => rfl

/-- The option loop succeeds, ends the program or fails as its first stopping option says. -/
lemma parseOptions_outcome (opts : List Opt) (cfg : Config) :
    (parseOptions env aenv opts cfg).map Option.isSome = firstStop env aenv opts := by
  induction opts generalizing cfg with
  | nil => rfl
  | cons o os ih =>
    have hv := parseOption_verdict env aenv cfg o
    simp only [parseOptions, firstStop]
    rcases h : parseOption env aenv cfg o with e | _ | cfg₁ <;> rw [h] at hv <;> rw [← hv]
    · rfl
    · rfl
    · exact ih cfg₁

/-- After the option loop, a section is set exactly when the last option naming it gives a
non-empty path. -/
lemma sections_isSome_iff {opts : List Opt} {cfg : Config}
    (h : parseOptions env aenv opts Config.initial = .ok (some cfg)) (c : UnifiedSection) :
    (cfg.sections c).isSome ↔ ∃ p, lastSectionArg c opts = some p ∧ p ≠ "" := by
  obtain ⟨-, -, hset, hkeep, -, -⟩ := parseOptions_some env aenv h
  rcases hl : lastSectionArg c opts with _ | p
  · simp [hkeep c hl, Config.initial]
  · simp only [Option.some.injEq, exists_eq_left', ne_eq]
    rw [← parsePathArgument_eq_ok_none aenv, hset c p hl]
    cases cfg.sections c <;> simp

/-- How `parse_argv` ends, for every command line. It fails with the error of the first option that
does not let its loop go on, or ends the program successfully when that option is `--help`,
`--version` or a `--json=` that listed the choices; the options after it are never looked at. When
every option lets the loop go on, it fails exactly when `--current` is given and the last path given
for some section is not empty. -/
theorem parseArgv_outcome (opts : List Opt) :
    (∀ f, parseArgv env aenv opts = .error f ↔
      firstStop env aenv opts = .error f ∨
        firstStop env aenv opts = .ok true ∧ Opt.current ∈ opts ∧
          (∃ c p, lastSectionArg c opts = some p ∧ p ≠ "") ∧
          f = logErrorErrno Errno.EINVAL
            "The --current switch cannot be used in combination with --linux= and related switches.") ∧
    (parseArgv env aenv opts = .ok none ↔ firstStop env aenv opts = .ok false) := by
  have ho := parseOptions_outcome env aenv opts Config.initial
  unfold parseArgv
  rcases hr : parseOptions env aenv opts Config.initial with e | _ | cfg₁ <;>
    rw [hr] at ho <;> rw [← ho]
  · simp [Except.bind, Except.map]
  · simp [Except.bind, Except.map]
  have hconf : (cfg₁.current = true ∧
      UnifiedSection.all.any (fun us => (cfg₁.sections us).isSome) = true) ↔
      Opt.current ∈ opts ∧ ∃ c p, lastSectionArg c opts = some p ∧ p ≠ "" := by
    obtain ⟨-, -, -, -, -, hcur⟩ := parseOptions_some env aenv hr
    simp only [hcur, Config.initial, Bool.false_or, decide_eq_true_eq, List.any_eq_true,
      sections_isSome_iff env aenv hr]
    exact and_congr_right fun _ =>
      ⟨fun ⟨c, _, hc⟩ => ⟨c, hc⟩, fun ⟨c, hc⟩ => ⟨c, UnifiedSection.mem_all c, hc⟩⟩
  dsimp only [Except.bind]
  by_cases hc : cfg₁.current = true ∧
      UnifiedSection.all.any (fun us => (cfg₁.sections us).isSome) = true
  · rw [if_pos hc]
    obtain ⟨hcur, hsec⟩ := hconf.mp hc
    simp only [Except.map, hcur, hsec]
    simpa using fun _ => eq_comm
  · rw [if_neg hc]
    simp only [Except.map, reduceCtorEq, false_iff, Except.ok.injEq, Option.isSome_some,
      Bool.true_eq_false, false_or, true_and, iff_false, and_true, not_and]
    exact fun _ h1 h2 _ => hc (hconf.mpr ⟨h1, h2⟩)

/-- `--help` ends the program before an unknown bank after it is looked up. -/
example : parseArgv sha256Env acceptingArgv [.help, .bank "nonsense"] = .ok none := rfl

/-! ## The assertions `verb_calculate` can fail -/

/-- `verb_calculate` asserts the digest lookup only; a known digest never fails it. -/
lemma pcrStateOfBank_abort {d a : String} (h : pcrStateOfBank env d = .error (.abort a)) :
    env.getDigestByName d = none := by
  unfold pcrStateOfBank at h
  rcases hmd : env.getDigestByName d with _ | md
  · rfl
  · simp only [hmd] at h
    split_ifs at h
    cases h

/-- The one assertion of `--current` mode. -/
lemma measureCurrentBank_abort {s : PcrState} {a : String}
    (h : measureCurrentBank env s = .error (.abort a)) : a = "pcr_states[i].value_size == sz" := by
  unfold measureCurrentBank at h
  rcases hr : env.readVirtualFile (pcrPath s.bank) with e | text <;> simp only [hr] at h
  · cases h
  rcases hv : unhexmem (strstrip text) with e | v <;> simp only [hv] at h
  · cases h
  split_ifs at h
  cases h
  rfl

/-- The section loop on registers of their declared sizes fails no assertion. -/
lemma measureSections_ne_abort {sections : UnifiedSection → Option String}
    {cs : List UnifiedSection} {states : List PcrState} {buffer : List UInt8}
    (hs : ∀ s ∈ states, Sized s) (a : String) :
    measureSections env sections cs states buffer ≠ .error (.abort a) := by
  induction cs generalizing states buffer with
  | nil => exact fun h => by cases h
  | cons c cs ih =>
    intro h
    unfold measureSections at h
    rcases hc : sections c with _ | path <;> simp only [hc] at h
    · exact ih hs h
    rw [measureSection_eq env buffer hs] at h
    rcases ht : env.openFile path with e | t <;> simp only [ht] at h
    · cases h
    rcases hf : t.final with _ | e <;> simp only [hf, Except.bind] at h
    · have hs' : ∀ s ∈ (if t.contents = [] then states else states.map (sectionStep c t.contents)),
          Sized s := by
        split_ifs
        exacts [hs, List.forall_mem_map.2 fun s hs'' => (hs s hs'').sectionStep c t.contents]
      exact ih hs' h
    · cases h

/-- On options `parse_argv` accepted, with OpenSSL looking every digest up under its canonical name
and knowing the four default banks, `verb_calculate` fails an assertion only in `--current` mode, and
there only the one comparing the size of the decoded sysfs value with the register's. -/
theorem verbCalculate_abort_of_parseArgv (opts : List Opt) (cfg : Config)
    (hparse : parseArgv env aenv opts = .ok (some cfg))
    (hcanon : ∀ d md, env.getDigestByName d = some md → env.getDigestByName md.name = some md)
    (hdefault : ∀ d ∈ defaultBanks, (env.getDigestByName d).isSome)
    (a : String) (habort : verbCalculate env cfg = .error (.abort a)) :
    cfg.current = true ∧ a = "pcr_states[i].value_size == sz" := by
  obtain ⟨hbanks, -, -⟩ := parseArgv_some env aenv hparse
  have hlookup : ∀ d ∈ cfg.banks, (env.getDigestByName d).isSome := by
    intro d hd
    rw [hbanks, mem_strvUniq, mem_strvSort] at hd
    split_ifs at hd
    · exact hdefault d hd
    obtain ⟨o, -, hdo⟩ := List.mem_filterMap.mp hd
    cases o <;> simp only [bankNameOf, reduceCtorEq] at hdo
    obtain ⟨md, hmd, rfl⟩ := Option.map_eq_some'.mp hdo
    simp [hcanon _ _ hmd]
  unfold verbCalculate at habort
  split_ifs at habort
  · cases habort
  rcases hm : cfg.banks.mapM (pcrStateOfBank env) with e | states <;>
    simp only [hm, Except.bind] at habort
  · cases habort
    obtain ⟨d, hd, hde⟩ := mapM_eq_error hm
    simpa [pcrStateOfBank_abort env hde] using hlookup d hd
  have hst := (mapM_eq_ok_iff_forall₂ _ _ _).mp hm
  have hsized := forall₂_right (hst.imp fun _ _ => pcrStateOfBank_eq_ok env)
    fun _ _ ⟨_, _, _, hs⟩ => hs
  unfold measurePcr at habort
  split_ifs at habort with h0 hcur
  · exact absurd (List.length_eq_zero.mp (hst.length_eq.trans h0)) (parseArgv_banks_ne_nil env aenv hparse)
  · obtain ⟨s, -, hs⟩ := mapM_eq_error habort
    exact ⟨hcur, measureCurrentBank_abort env hs⟩
  · exact absurd habort (measureSections_ne_abort env hsized a)

/-- A 32-byte stand-in digest named `d`. -/
def digest32 (d : String) : Md :=
  ⟨d, 32, fun _ => List.replicate 32 0, fun _ => List.length_replicate _ _⟩

/-- OpenSSL knowing the four default banks under their own names, on a platform whose sysfs
publishes one byte for every bank. -/
def defaultsEnv : MeasureEnv :=
  ⟨fun d => if d ∈ defaultBanks then some (digest32 d) else none, fun _ => .error Errno.ENOENT,
    fun _ => .ok "00\n", []⟩

theorem verbCalculate_abort_of_parseArgv_current :
    parseArgv defaultsEnv acceptingArgv [.current, .bank "SHA256"] =
      .ok (some ⟨fun _ => none, ["SHA256"], true⟩) ∧
    (∀ d md, defaultsEnv.getDigestByName d = some md →
      defaultsEnv.getDigestByName md.name = some md) ∧
    (∀ d ∈ defaultBanks, (defaultsEnv.getDigestByName d).isSome) ∧
    verbCalculate defaultsEnv ⟨fun _ => none, ["SHA256"], true⟩ =
      .error (.abort "pcr_states[i].value_size == sz") ∧
    ((⟨fun _ => none, ["SHA256"], true⟩ : Config).current = true ∧
      "pcr_states[i].value_size == sz" = "pcr_states[i].value_size == sz") := by
  have hparse : parseArgv defaultsEnv acceptingArgv [.current, .bank "SHA256"] =
      .ok (some ⟨fun _ => none, ["SHA256"], true⟩) := by
    simp [parseArgv, parseOptions, parseOption, defaultsEnv, defaultBanks, digest32, Config.initial,
      strvSort, strvUniq, Except.bind, UnifiedSection.all]
  have hcanon : ∀ d md, defaultsEnv.getDigestByName d = some md →
      defaultsEnv.getDigestByName md.name = some md := by
    intro d md h
    simp only [defaultsEnv, Option.ite_none_right_eq_some, Option.some.injEq] at h
    obtain ⟨hd, rfl⟩ := h
    simp [defaultsEnv, digest32, hd]
  have hdefault : ∀ d ∈ defaultBanks, (defaultsEnv.getDigestByName d).isSome := by
    intro d hd
    simp [defaultsEnv, hd]
  have habort : verbCalculate defaultsEnv ⟨fun _ => none, ["SHA256"], true⟩ =
      .error (.abort "pcr_states[i].value_size == sz") := by
    rfl
  exact ⟨hparse, hcanon, hdefault, habort, verbCalculate_abort_of_parseArgv defaultsEnv acceptingArgv
    _ _ hparse hcanon hdefault _ habort⟩

end Stubble.Proofs
