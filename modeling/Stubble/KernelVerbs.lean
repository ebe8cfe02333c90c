import Stubble.Inspect

/-!
# The kernel verbs of bootctl

`verb_kernel_identify` and `verb_kernel_inspect` of `bootctl-uki.c`: each runs `inspect_kernel` on
its argument, asking for the type alone or for everything, and prints what it got. Standard output
is modelled as the bytes written to it.
-/

namespace Stubble

/-- `kernel_type_to_string`: the entry of `kernel_type_table`. -/
def kernelTypeToString : KernelType → String
  | .unknown => "unknown"
  | .uki => "uki"
  | .pe => "pe"

/-- The UTF-8 bytes of a string, as `printf` writes a string literal or a `char *` it is given. -/
def textBytes (s : String) : List UInt8 := s.data.flatMap String.utf8EncodeChar

/-- The bytes `printf` writes for a `%s` argument: those before its NUL. -/
def cStr (s : List UInt8) : List UInt8 := s.takeWhile (· != 0)

/-- The state a verb calls `inspect_kernel` in: no file open, its output variables unwritten. -/
def Machine.initial : Machine := ⟨⟨[], 0⟩, .untouched⟩

/-- The name printed for the type variable; `inspect_kernel` writes it whenever it succeeds. -/
def typeName : Option KernelType → String
  | some t => kernelTypeToString t
  | none => ""

/-- `printf(label "%s\n", s)` when `s` is not NULL, nothing when it is. -/
def optionalLine (label : String) : Option (List UInt8) → List UInt8
  | some s => textBytes label ++ cStr s ++ [0x0a]
  | none => []

variable (env : UkiEnv)

/-- `verb_kernel_identify`: `inspect_kernel` asked for the type alone, then `puts` of its name. -/
def verbKernelIdentify (filename : String) : Except Failure (List UInt8) :=
  match (inspectKernel env filename ⟨true, false, false, false⟩).run Machine.initial with
  | .error e _ => .error e
  | .ok () m => .ok (textBytes (typeName m.out.type) ++ [0x0a])

/-- `verb_kernel_inspect`: `inspect_kernel` asked for everything, then the type and each of the
command line, the uname and the pretty name that is not NULL. -/
def verbKernelInspect (filename : String) : Except Failure (List UInt8) :=
  match (inspectKernel env filename ⟨true, true, true, true⟩).run Machine.initial with
  | .error e _ => .error e
  | .ok () m =>
    .ok (textBytes ("Kernel Type: " ++ typeName m.out.type ++ "\n") ++
      optionalLine "    Cmdline: " m.out.cmdline.join ++
      optionalLine "    Version: " m.out.uname.join ++
      optionalLine "         OS: " (m.out.prettyName.join.map textBytes))

end Stubble
