import Stubble.Measure

/-!
# The status verb

`verb_status` of `measure.c` in its plain-text output, and `validate_stub`, which it runs first: the
platform's TPM2 support, the stub's features and self-reported PCR numbers, and the sysfs
directories of the selected banks; then, for each relevant PCR and bank, the value sysfs publishes.
The TPM2 and EFI queries, `access`, `read_virtual_file`, `safe_atou32` and the terminal's colours
are not under src/ and stay parameters; the JSON output is left out.
-/

namespace Stubble

/-- `TPM_PCR_INDEX_KERNEL_PARAMETERS` of `tpm-pcr.h`, absent from src/. -/
def tpmPcrIndexKernelParameters : Nat := 12

/-- `TPM_PCR_INDEX_INITRD_SYSEXTS` of `tpm-pcr.h`, absent from src/. -/
def tpmPcrIndexInitrdSysexts : Nat := 13

/-- `EFI_STUB_FEATURE_THREE_PCRS` of systemd's `efi-loader.h`, absent from src/. -/
def efiStubFeatureThreePcrs : Nat := 2 ^ 3

/-- `EFI_LOADER_VARIABLE(name)` of systemd's EFI headers, absent from src/: the name followed by the
boot loader's vendor GUID. -/
def efiLoaderVariable (name : String) : String := name ++ "-4a67b082-0a4c-41cf-b6c7-440b29bb8c4f"

/-- `memeqzero`: every byte is zero (an empty buffer included). -/
def memeqzero (h : List UInt8) : Bool := h.all (· == 0)

/-- What the status verb prints, in order: a `log_warning` message, text on standard error, or
text on standard output. -/
inductive Event where
  | warning (message : String)
  | stderr (text : String)
  | stdout (text : String)
  deriving DecidableEq, Repr

/-- Steps run one after another, each printing its events or failing before it prints anything;
the run stops at the first failure. What was printed, and how the run ended. -/
def runSteps : List (Except Failure (List Event)) → List Event × Except Failure Unit
  | [] => ([], .ok ())
  | .error f :: _ => ([], .error f)
  | .ok evs :: rest => (evs ++ (runSteps rest).1, (runSteps rest).2)

/-- What the status verb gets from outside src/: `tpm2_support()`, `efi_stub_get_features`,
`efi_get_variable_string`, `safe_atou32`, `access(p, F_OK)` (`none` on success, else `errno`),
`read_virtual_file` on sysfs, and `ansi_grey()` and `ansi_normal()`. -/
structure StatusEnv where
  tpm2SupportFull : Bool
  efiStubGetFeatures : Except Errno Nat
  efiGetVariableString : String → Except Errno String
  safeAtou32 : String → Except Errno Nat
  access : String → Option Errno
  readVirtualFile : String → Except Errno String
  ansiGrey : String
  ansiNormal : String

variable (senv : StatusEnv)

/-- `compare_reported_pcr_nr`: a missing variable is fine, one that cannot be read or parsed is
an error, and a number other than `pcr` only a warning. -/
def compareReportedPcrNr (pcr : Nat) (varname description : String) : Except Failure (List Event) :=
  match senv.efiGetVariableString varname with
  | .error e =>
    if e = Errno.ENOENT then .ok []
    else .error (logErrorErrno e ("Failed to read EFI variable '" ++ varname ++ "': %m"))
  | .ok s =>
    match senv.safeAtou32 s with
    | .error e => .error (logErrorErrno e ("Failed to parse EFI variable '" ++ varname ++ "': " ++ s))
    | .ok v =>
      .ok (if pcr ≠ v then
          [.warning ("PCR number reported by stub for " ++ description ++ " (" ++ toString v ++
            ") different from our expectation (" ++ toString pcr ++
            ").\nThe measurements are likely inconsistent.")]
        else [])

/-- The sysfs directory of a bank. -/
def pcrBankDir (bank : String) : String := "/sys/class/tpm/tpm0/pcr-" ++ bank ++ "/"

/-- The bank loop of `validate_stub`: whether the sysfs directory of some bank exists. An `access`
failing other than with `ENOENT` fails it, also after a directory was found. -/
def banksFound : List String → Except Failure Bool
  | [] => .ok false
  | bank :: banks =>
    let b := asciiStrlower bank
    match senv.access (pcrBankDir b) with
    | none => (fun _ => true) <$> banksFound banks
    | some e =>
      if e = Errno.ENOENT then banksFound banks
      else .error (logErrorErrno e ("Failed to detect if '" ++ b ++ "' exists: %m"))

/-- `validate_stub`, check after check. -/
def validateStubSteps (banks : List String) : List (Except Failure (List Event)) :=
  [if senv.tpm2SupportFull then .ok []
    else .error (logErrorErrno Errno.EOPNOTSUPP "Sorry, system lacks full TPM2 support."),
   match senv.efiStubGetFeatures with
    | .error e => .error (logErrorErrno e "Unable to get stub features: %m")
    | .ok features =>
      .ok (if features &&& efiStubFeatureThreePcrs = efiStubFeatureThreePcrs then []
        else [.warning ("Warning: current kernel image does not support measuring itself, the " ++
          "command line or initrd system extension images.\nThe PCR measurements seen are " ++
          "unlikely to be valid.")]),
   compareReportedPcrNr senv tpmPcrIndexKernelImage (efiLoaderVariable "StubPcrKernelImage")
    "kernel image",
   compareReportedPcrNr senv tpmPcrIndexKernelParameters (efiLoaderVariable "StubPcrKernelParameters")
    "kernel parameters",
   compareReportedPcrNr senv tpmPcrIndexInitrdSysexts (efiLoaderVariable "StubPcrInitRDSysExts")
    "initrd system extension images",
   (banksFound senv banks).bind fun found =>
    if found then .ok []
    else .error (logErrorErrno Errno.EOPNOTSUPP "None of the select PCR banks appear to exist.")]

/-- `relevant_pcrs` of `verb_status`. -/
def relevantPcrs : List (Nat × String) :=
  [(tpmPcrIndexKernelImage, "Unified Kernel Image"),
   (tpmPcrIndexKernelParameters, "Kernel Parameters"),
   (tpmPcrIndexInitrdSysexts, "initrd System Extensions")]

/-- The sysfs file with a bank's value of PCR `nr`. -/
def pcrFile (bank : String) (nr : Nat) : String := pcrBankDir bank ++ toString nr

/-- The description `verb_status` writes to standard error before a PCR's first bank. -/
def descriptionLine (nr : Nat) (description : String) (h : List UInt8) : String :=
  senv.ansiGrey ++ "# PCR[" ++ toString nr ++ "] " ++ description ++
    (if memeqzero h then " (NOT SET!)" else "") ++ senv.ansiNormal ++ "\n"

/-- One pass of the bank loop of `verb_status` for PCR `nr`: nothing when sysfs has no such file,
else the decoded value as a line, after the PCR's description when the bank is the first of
`arg_banks`. The decoding error shows the text as `strstrip` left it in place. -/
def statusBank (nr : Nat) (description : String) (first : Bool) (bank : String) :
    Except Failure (List Event) :=
  let b := asciiStrlower bank
  let p := pcrFile b nr
  match senv.readVirtualFile p with
  | .error e =>
    if e = Errno.ENOENT then .ok [] else .error (logErrorErrno e ("Failed to read '" ++ p ++ "': %m"))
  | .ok s =>
    match unhexmem (strstrip s) with
    | .error e =>
      .error (logErrorErrno e ("Failed to decode PCR value '" ++ deleteTrailingWhitespace s ++ "': %m"))
    | .ok h =>
      .ok ((if first then [.stderr (descriptionLine senv nr description h)] else []) ++
        [.stdout (valueLine nr b h)])

/-- The bank loop of `verb_status` for PCR `nr`. -/
def statusPcr (nr : Nat) (description : String) : List String → List (Except Failure (List Event))
  | [] => []
  | bank :: banks =>
    statusBank senv nr description true bank :: banks.map (statusBank senv nr description false)

/-- `verb_status` in plain-text output: `validate_stub`, then every relevant PCR of every bank. -/
def verbStatus (banks : List String) : List Event × Except Failure Unit :=
  runSteps (validateStubSteps senv banks ++
    relevantPcrs.flatMap fun pcr => statusPcr senv pcr.1 pcr.2 banks)

end Stubble
