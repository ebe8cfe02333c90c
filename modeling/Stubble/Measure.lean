import Stubble.Basic
import Mathlib.Data.String.Basic

/-!
# The PCR extension engine

`measure.c`: the bank set `verb_calculate` builds, `pcr_state_extend`, and `measure_pcr` in both of
its modes: streaming each unified section through one digest context per bank, or adopting the
values the platform publishes. OpenSSL's digests, the input files and sysfs are not under src/ and
stay parameters; a failed `assert` is an outcome of its own.
-/

namespace Stubble

/-- How a call of the engine ends other than by returning: a negative errno with its log message,
or a failed `assert`, which aborts the process. -/
inductive Stop where
  | fail (f : Failure)
  | abort (assertion : String)
  deriving DecidableEq, Repr

/-- An OpenSSL message digest (`EVP_MD`): its name, its output size `EVP_MD_size` and the digest of
a whole message, of exactly that many bytes. -/
structure Md where
  name : String
  size : Nat
  digest : List UInt8 → List UInt8
  digest_length : ∀ x, (digest x).length = size

/-- An `EVP_MD_CTX`: the digest it was initialised with and the bytes fed to it so far. -/
structure MdCtx where
  md : Md
  data : List UInt8

/-- `EVP_DigestInit_ex`. -/
def MdCtx.init (md : Md) : MdCtx := ⟨md, []⟩

/-- `EVP_DigestUpdate`. -/
def MdCtx.update (ctx : MdCtx) (d : List UInt8) : MdCtx := { ctx with data := ctx.data ++ d }

/-- `EVP_DigestFinal_ex`. -/
def MdCtx.final (ctx : MdCtx) : List UInt8 := ctx.md.digest ctx.data

/-- A `PcrState`: the bank's name, its digest, the register `value` and `value_size`. -/
structure PcrState where
  bank : String
  md : Md
  value : List UInt8
  valueSize : Nat

/-- `pcr_state_extend`: the register becomes the digest of its old `value_size` bytes followed by
`data`. -/
def pcrStateExtend (s : PcrState) (data : List UInt8) : Except Stop PcrState :=
  if s.valueSize = 0 then .error (.abort "pcr_state->value_size > 0")
  else
    let value := ((MdCtx.init s.md).update (s.value.take s.valueSize) |>.update data).final
    if value.length ≠ s.valueSize then .error (.abort "value_size == pcr_state->value_size")
    else .ok { s with value := value }

/-- Modelled from the spec: the `UnifiedSection` enumeration of `tpm-pcr.h`, absent from src/, in
the order the stub measures: kernel, os-release, command line, initrd, splash image, devicetree. -/
inductive UnifiedSection
  | linux
  | osrel
  | cmdline
  | initrd
  | splash
  | dtb
  deriving DecidableEq, Repr

/-- The sections from `0` up to `_UNIFIED_SECTION_MAX`. -/
def UnifiedSection.all : List UnifiedSection := [.linux, .osrel, .cmdline, .initrd, .splash, .dtb]

/-- Modelled from the spec: the `unified_sections` table of `tpm-pcr.c`, absent from src/, naming the
PE section each input is measured as. -/
def unifiedSections : UnifiedSection → String
  | .linux => ".linux"
  | .osrel => ".osrel"
  | .cmdline => ".cmdline"
  | .initrd => ".initrd"
  | .splash => ".splash"
  | .dtb => ".dtb"

/-- The `strlen(s) + 1` bytes of a C string: its characters up to the first NUL, and the NUL. -/
def cStringBytes (s : String) : List UInt8 :=
  (s.toList.map fun c : Char => c.toNat.toUInt8).takeWhile (· != 0) ++ [0]

/-- `BUFFER_SIZE`. -/
def bufferSize : Nat := 16 * 1024

/-- What `read(fd, buffer, BUFFER_SIZE)` returns on an opened input, call after call: chunks of one
to `BUFFER_SIZE` bytes, then `0` at the end of the file (`final = none`) or a negative errno. -/
structure ReadTrace where
  chunks : List (List UInt8)
  final : Option Errno
  chunk_pos : ∀ c ∈ chunks, 0 < c.length
  chunk_le : ∀ c ∈ chunks, c.length ≤ bufferSize

/-- The bytes the reads deliver. -/
def ReadTrace.contents (t : ReadTrace) : List UInt8 := t.chunks.flatten

/-- `TPM_PCR_INDEX_KERNEL_IMAGE` of `tpm-pcr.h`, absent from src/: PCR 11, the register the tool
pre-calculates (the comment at the top of `measure.c`). -/
def tpmPcrIndexKernelImage : Nat := 11

/-- `delete_trailing_chars(s, WHITESPACE)`: the string without its trailing whitespace. -/
def deleteTrailingWhitespace (s : String) : String :=
  ⟨(s.toList.reverse.dropWhile Char.isWhitespace).reverse⟩

/-- Modelled from the spec: `strstrip` of systemd's string utilities, absent from src/: the string
without its leading and trailing whitespace. -/
def strstrip (s : String) : String :=
  deleteTrailingWhitespace ⟨s.toList.dropWhile Char.isWhitespace⟩

/-- `unhexchar`: the value of a hexadecimal digit. -/
def unhexchar (c : Char) : Option Nat :=
  if '0' ≤ c ∧ c ≤ '9' then some (c.toNat - '0'.toNat)
  else if 'a' ≤ c ∧ c ≤ 'f' then some (c.toNat - 'a'.toNat + 10)
  else if 'A' ≤ c ∧ c ≤ 'F' then some (c.toNat - 'A'.toNat + 10)
  else none

/-- Modelled from systemd's `hexdecoct.c`, absent from src/: the loop of `unhexmem_full`, whose
`unhex_next` skips the whitespace before and after each digit it decodes. Skipping whitespace around
every digit is skipping it anywhere, so the loop is read one character at a time, `high` the digit
that waits for its low half: two digits a byte, `EINVAL` on a character that is neither whitespace
nor a digit, `EPIPE` when the input ends after an odd number of digits. -/
def unhexDigits : Option Nat → List Char → Except Errno (List UInt8)
  | none, [] => .ok []
  | some _, [] => .error Errno.EPIPE
  | high, c :: rest =>
    if c.isWhitespace then unhexDigits high rest
    else
      match unhexchar c, high with
      | none, _ => .error Errno.EINVAL
      | some x, none => unhexDigits (some x) rest
      | some y, some x => (fun r => (x * 16 + y).toUInt8 :: r) <$> unhexDigits none rest

/-- Modelled from systemd's `hexdecoct.c`: `unhexmem(s, SIZE_MAX, ...)`, which decodes the whole
NUL-terminated string. -/
def unhexmem (s : String) : Except Errno (List UInt8) := unhexDigits none s.toList

/-- Modelled from systemd's `hexdecoct.c`, absent from src/: `hexchar`, the lowercase digit of a
nibble. -/
def hexchar (x : Nat) : Char := "0123456789abcdef".toList.getD (x % 16) '0'

/-- Modelled from systemd's `hexdecoct.c`, absent from src/: `hexmem`, two lowercase hexadecimal
digits a byte, the high nibble first. -/
def hexmem (h : List UInt8) : String :=
  ⟨h.flatMap fun x => [hexchar (x.toNat / 16), hexchar (x.toNat % 16)]⟩

/-- `ascii_strlower`. -/
def asciiStrlower (s : String) : String := ⟨s.toList.map Char.toLower⟩

/-- `INT_MAX`. -/
def intMax : Nat := 2 ^ 31 - 1

/-- What the engine gets from outside src/: OpenSSL's digests by name (`EVP_get_digestbyname`), the
reads of each input file after `open`, `read_virtual_file` on sysfs, and the bytes `malloc` hands
back for the read buffer. -/
structure MeasureEnv where
  getDigestByName : String → Option Md
  openFile : String → Except Errno ReadTrace
  readVirtualFile : String → Except Errno String
  buffer : List UInt8

/-- The options `verb_calculate` and `measure_pcr` read: `arg_sections`, `arg_banks` and
`arg_current`. -/
structure Config where
  sections : UnifiedSection → Option String
  banks : List String
  current : Bool

variable (env : MeasureEnv)

/-- The read loop of one section: each chunk lands at the front of the buffer, and the `sz` bytes
at the front are fed to every bank's context; `m` counts the bytes read. -/
def readLoop (path : String) (final : Option Errno) :
    List (List UInt8) → List MdCtx → List UInt8 → Nat →
      Except Stop (List MdCtx × List UInt8 × Nat)
  | [], ctxs, buffer, m =>
    match final with
    | none => .ok (ctxs, buffer, m)
    | some e => .error (.fail (logErrorErrno e ("Failed to read '" ++ path ++ "': %m")))
  | chunk :: rest, ctxs, buffer, m =>
    let buffer := chunk ++ buffer.drop chunk.length
    let sz := chunk.length
    readLoop path final rest (ctxs.map fun ctx => ctx.update (buffer.take sz)) buffer (m + sz)

/-- One bank's part of measuring section `c`: extend by the digest of the section's name, then by
the digest its context computed over the content. -/
def measureBank (c : UnifiedSection) (s : PcrState) (ctx : MdCtx) : Except Stop PcrState :=
  let nameHash := s.md.digest (cStringBytes (unifiedSections c))
  if nameHash.length ≠ s.valueSize then
    .error (.abort "data_hash_size == (unsigned) pcr_states[i].value_size")
  else (pcrStateExtend s nameHash).bind fun s =>
    let dataHash := ctx.final
    if dataHash.length ≠ s.valueSize then
      .error (.abort "data_hash_size == (unsigned) pcr_states[i].value_size")
    else pcrStateExtend s dataHash

/-- One pass of the section loop of `measure_pcr`, for a section given a file: read it through one
context per bank, skip it if empty, else extend every bank. -/
def measureSection (c : UnifiedSection) (path : String) (states : List PcrState)
    (buffer : List UInt8) : Except Stop (List PcrState × List UInt8) :=
  match env.openFile path with
  | .error e => .error (.fail (logErrorErrno e ("Failed to open '" ++ path ++ "': %m")))
  | .ok t =>
    (readLoop path t.final t.chunks (states.map fun s => MdCtx.init s.md) buffer 0).bind
      fun (ctxs, buffer, m) =>
        if m = 0 then .ok (states, buffer)
        else (fun states => (states, buffer)) <$>
          (states.zip ctxs).mapM fun (s, ctx) => measureBank c s ctx

/-- The section loop of `measure_pcr`, over the sections from `c` on. -/
def measureSections (sections : UnifiedSection → Option String) :
    List UnifiedSection → List PcrState → List UInt8 → Except Stop (List PcrState)
  | [], states, _ => .ok states
  | c :: cs, states, buffer =>
    match sections c with
    | none => measureSections sections cs states buffer
    | some path =>
      (measureSection env c path states buffer).bind fun (states, buffer) =>
        measureSections sections cs states buffer

/-- The sysfs file with a bank's current value of the kernel image PCR. -/
def pcrPath (bank : String) : String :=
  "/sys/class/tpm/tpm0/pcr-" ++ bank ++ "/" ++ toString tpmPcrIndexKernelImage

/-- One bank in `--current` mode: adopt the value sysfs publishes. The message shows the text as
`strstrip` left it in place: without its trailing whitespace. -/
def measureCurrentBank (s : PcrState) : Except Stop PcrState :=
  match env.readVirtualFile (pcrPath s.bank) with
  | .error e => .error (.fail (logErrorErrno e ("Failed to read '" ++ pcrPath s.bank ++ "': %m")))
  | .ok text =>
    match unhexmem (strstrip text) with
    | .error e =>
      .error (.fail (logErrorErrno e
        ("Failed to decode PCR value '" ++ deleteTrailingWhitespace text ++ "': %m")))
    | .ok v =>
      if s.valueSize ≠ v.length then .error (.abort "pcr_states[i].value_size == sz")
      else .ok { s with value := v }

/-- `measure_pcr`. -/
def measurePcr (cfg : Config) (states : List PcrState) : Except Stop (List PcrState) :=
  if states.length = 0 then .error (.abort "n > 0")
  else if cfg.current then states.mapM (measureCurrentBank env)
  else measureSections env cfg.sections UnifiedSection.all states env.buffer

/-- One bank of the set `verb_calculate` builds: its digest by name, a checked size, and a register
of that many zero bytes. -/
def pcrStateOfBank (d : String) : Except Stop PcrState :=
  match env.getDigestByName d with
  | none => .error (.abort "implementation = EVP_get_digestbyname(*d)")
  | some md =>
    if md.size = 0 ∨ md.size ≥ intMax then
      .error (.fail (logErrorErrno Errno.EINVAL ("Unexpected digest size: " ++ toString md.size)))
    else .ok ⟨asciiStrlower md.name, md, List.replicate md.size 0, md.size⟩

/-- `verb_calculate` up to its output: the registers once `measure_pcr` is done. -/
def verbCalculate (cfg : Config) : Except Stop (List PcrState) :=
  if cfg.sections .linux = none ∧ cfg.current = false then
    .error (.fail (logErrorErrno Errno.EINVAL
      "Either --linux= or --current must be specified, refusing."))
  else (cfg.banks.mapM (pcrStateOfBank env)).bind (measurePcr env cfg)

/-- The line `verb_calculate` and `verb_status` print for a bank's value `h` of PCR `nr`:
`printf("%" PRIu32 ":%s=%s\n", nr, bank, hexmem(h))`. -/
def valueLine (nr : Nat) (bank : String) (h : List UInt8) : String :=
  toString nr ++ ":" ++ bank ++ "=" ++ hexmem h ++ "\n"

/-- The plain-text output of `verb_calculate`: a line for each register, in bank order. -/
def verbCalculateLines (states : List PcrState) : List String :=
  states.map fun s => valueLine tpmPcrIndexKernelImage s.bank (s.value.take s.valueSize)

/-! ## The command line -/

/-- What `getopt_long` hands `parse_argv`, option after option: `--linux=` to `--dtb=` as the section
they name, and `'?'` for an option it rejected after printing why. -/
inductive Opt where
  | help
  | version
  | noPager
  | sectionPath (c : UnifiedSection) (path : String)
  | current
  | bank (name : String)
  | json
  | jsonArg (arg : String)
  | unknown
  deriving DecidableEq, Repr

/-- The helpers `parse_argv` calls outside src/: `path_make_absolute_cwd` followed by
`path_simplify`, which `parse_path_argument` runs on a non-empty path, and `parse_json_argument`,
`false` when it has listed the choices and the program is to exit. -/
structure ArgvEnv where
  pathMakeAbsoluteCwd : String → Except Errno String
  parseJsonArgument : String → Except Failure Bool

/-- Modelled from systemd's `strv.c`, absent from src/: `strv_sort`, `qsort` with `strcmp`. -/
def strvSort (l : List String) : List String := l.mergeSort fun a b => decide (a ≤ b)

/-- Modelled from systemd's `strv.c`, absent from src/: `strv_uniq`, which keeps the first of equal
strings and removes every later one. -/
def strvUniq : List String → List String
  | [] => []
  | a :: l => a :: (strvUniq l).filter (· != a)

/-- The banks `parse_argv` picks when no `--bank=` is given. -/
def defaultBanks : List String := ["SHA1", "SHA256", "SHA384", "SHA512"]

/-- The options before any is parsed. -/
def Config.initial : Config := ⟨fun _ => none, [], false⟩

variable (aenv : ArgvEnv)

/-- `parse_path_argument(path, false, &arg)` of systemd's `parse-argument.c`, absent from src/: an
empty path frees the argument and leaves it NULL (`none`); any other is made absolute and
simplified, or refused with the error of `path_make_absolute_cwd`. -/
def parsePathArgument (path : String) : Except Failure (Option String) :=
  if path = "" then .ok none
  else
    match aenv.pathMakeAbsoluteCwd path with
    | .error e =>
      .error (logErrorErrno e ("Failed to parse path \"" ++ path ++ "\" and make it absolute: %m"))
    | .ok p => .ok (some p)

/-- One pass of the option loop of `parse_argv`: the options so far, `none` once the program is to
exit successfully (`--help`, `--version`, `--json=help`). -/
def parseOption (cfg : Config) : Opt → Except Failure (Option Config)
  | .help => .ok none
  | .version => .ok none
  | .noPager => .ok (some cfg)
  | .sectionPath c path =>
    (parsePathArgument aenv path).map fun p =>
      some { cfg with sections := Function.update cfg.sections c p }
  | .current => .ok (some { cfg with current := true })
  | .bank name =>
    match env.getDigestByName name with
    | none => .error (logErrorErrno Errno.EINVAL ("Unknown bank '" ++ name ++ "', refusing."))
    | some md => .ok (some { cfg with banks := cfg.banks ++ [md.name] })
  | .json => .ok (some cfg)
  | .jsonArg arg => (aenv.parseJsonArgument arg).map fun go => if go then some cfg else none
  | .unknown => .error ⟨Errno.EINVAL, ""⟩

/-- The option loop of `parse_argv`. -/
def parseOptions : List Opt → Config → Except Failure (Option Config)
  | [], cfg => .ok (some cfg)
  | o :: os, cfg =>
    (parseOption env aenv cfg o).bind fun
      | none => .ok none
      | some cfg => parseOptions os cfg

/-- `parse_argv`: the options of a run that goes on to a verb, `none` when the program is to exit
successfully. The banks are the defaults when none is given, sorted and without duplicates, and
`--current` excludes every section that is set. -/
def parseArgv (opts : List Opt) : Except Failure (Option Config) :=
  (parseOptions env aenv opts Config.initial).bind fun
    | none => .ok none
    | some cfg =>
      let banks := if cfg.banks.isEmpty then defaultBanks else cfg.banks
      let cfg := { cfg with banks := strvUniq (strvSort banks) }
      if cfg.current ∧ UnifiedSection.all.any (fun us => (cfg.sections us).isSome) then
        .error (logErrorErrno Errno.EINVAL
          "The --current switch cannot be used in combination with --linux= and related switches.")
      else .ok (some cfg)

end Stubble
