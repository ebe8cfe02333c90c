import Mathlib.Data.List.Basic
import Mathlib.Data.List.Forall2
import Mathlib.Tactic.Ring

/-!
# Bytes, error returns and streams

The pieces every module of the model shares: the negative `errno` returns of systemd's
`log_*_errno` helpers, the little-endian field decoding of `le16toh` and
`le32toh`, `memcmp_nn`, and a `FILE *` opened on a regular file.
-/

namespace Stubble

/-- A positive error number, as `errno` holds after a failed call. -/
structure Errno where
  code : Nat
  pos : 0 < code
  deriving DecidableEq, Repr

namespace Errno

def ENOENT : Errno := ⟨2, by decide⟩
def EIO : Errno := ⟨5, by decide⟩
def E2BIG : Errno := ⟨7, by decide⟩
def EINVAL : Errno := ⟨22, by decide⟩
def EPIPE : Errno := ⟨32, by decide⟩
def EOPNOTSUPP : Errno := ⟨95, by decide⟩

end Errno

/-- A negative `errno` return, with the message logged for it. -/
structure Failure where
  errno : Errno
  message : String
  deriving DecidableEq, Repr

/-- `log_error_errno(e, ...)`: logs the message and evaluates to `-e`. -/
def logErrorErrno (e : Errno) (message : String) : Failure := ⟨e, message⟩

/-- `log_warning_errno(e, ...)`: logs at warning level, and evaluates to `-e` all the same. -/
def logWarningErrno (e : Errno) (message : String) : Failure := ⟨e, message⟩

/-- The natural number whose little-endian bytes are given: `le16toh` and `le32toh` on the
bytes of a field. -/
def ofLE : List UInt8 → Nat
  | [] => 0
  | b :: bs => b.toNat + 256 * ofLE bs

@[simp] lemma ofLE_nil : ofLE [] = 0 := rfl

@[simp] lemma ofLE_cons (b : UInt8) (bs : List UInt8) : ofLE (b :: bs) = b.toNat + 256 * ofLE bs :=
  rfl

/-- The little-endian field of `width` bytes at offset `off` of a header read into `bytes`. -/
def fieldLE (bytes : List UInt8) (off width : Nat) : Nat := ofLE ((bytes.drop off).take width)

/-- `memcmp_nn(s1, n1, s2, n2)`: `memcmp` over the common length, then the shorter area is the
smaller one. -/
def memcmpNn : List UInt8 → List UInt8 → Ordering
  | [], [] => .eq
  | [], _ :: _ => .lt
  | _ :: _, [] => .gt
  | a :: as, b :: bs => if a = b then memcmpNn as bs else if a < b then .lt else .gt

@[simp] lemma memcmpNn_eq_iff (s t : List UInt8) : memcmpNn s t = .eq ↔ s = t := by
  induction s generalizing t with
  | nil => cases t <;> simp [memcmpNn]
  | cons a as ih =>
    cases t with
    | nil => simp [memcmpNn]
    | cons b bs =>
      by_cases hab : a = b
      · simp [memcmpNn, hab, ih]
      · simp only [memcmpNn, hab, if_false, List.cons.injEq, false_and, iff_false]
        split <;> simp

/-- `memcmp(s1, s2, n)`. -/
def memcmp (s1 s2 : List UInt8) (n : Nat) : Ordering := memcmpNn (s1.take n) (s2.take n)

@[simp] lemma memcmp_eq_iff (s t : List UInt8) (n : Nat) :
    memcmp s t n = .eq ↔ s.take n = t.take n := memcmpNn_eq_iff _ _

/-- A `FILE *` opened read-only on a regular file: its bytes and the stream position. -/
structure FileStream where
  data : List UInt8
  pos : Nat

namespace FileStream

/-- The bytes `fread` can still deliver from the position on. -/
def avail (f : FileStream) : List UInt8 := f.data.drop f.pos

/-- `fread(ptr, size, nmemb, f)`: reads up to `size * nmemb` bytes from the position and returns
the number of whole items read, the bytes themselves and the stream moved past them. -/
def fread (f : FileStream) (size nmemb : Nat) : (Nat × List UInt8) × FileStream :=
  let bytes := f.avail.take (size * nmemb)
  ((bytes.length / size, bytes), { f with pos := f.pos + bytes.length })

/-- `fseek(f, off, SEEK_SET)` for an offset that is a non-negative `long`. On a regular file any
such offset is accepted, also one past the end, so the call never fails. -/
def fseek (f : FileStream) (off : Nat) : FileStream := { f with pos := off }

@[simp] lemma fseek_data (f : FileStream) (off : Nat) : (f.fseek off).data = f.data := rfl

@[simp] lemma fseek_avail (f : FileStream) (off : Nat) : (f.fseek off).avail = f.data.drop off :=
  rfl

@[simp] lemma fread_data (f : FileStream) (size nmemb : Nat) :
    (f.fread size nmemb).2.data = f.data := rfl

@[simp] lemma fread_bytes (f : FileStream) (size nmemb : Nat) :
    (f.fread size nmemb).1.2 = f.avail.take (size * nmemb) := rfl

end FileStream

/-! ## Results of fallible code -/

section ExceptOk
variable {ε α β : Type}

lemma except_bind_eq_ok {x : Except ε α} {f : α → Except ε β} {b : β} :
    x.bind f = .ok b ↔ ∃ a, x = .ok a ∧ f a = .ok b := by
  cases x <;> simp [Except.bind]

lemma except_map_eq_ok {x : Except ε α} {f : α → β} {b : β} :
    f <$> x = .ok b ↔ ∃ a, x = .ok a ∧ f a = b := by
  cases x <;> simp [Functor.map, Except.map]

lemma except_ite_ok (c : Prop) [Decidable c] (a b : α) :
    (if c then (.ok a : Except ε α) else .ok b) = .ok (if c then a else b) := by
  split <;> rfl

lemma mapM_eq_ok_iff_forall₂ (f : α → Except ε β) (l : List α) (r : List β) :
    l.mapM f = .ok r ↔ List.Forall₂ (fun a b => f a = .ok b) l r := by
  induction l generalizing r with
  | nil =>
    rw [List.mapM_nil]
    cases r <;> simp [pure, Except.pure]
  | cons a l ih =>
    cases r with
    | nil =>
      simp only [List.mapM_cons, List.Forall₂.nil, bind, Except.bind, iff_false]
      cases f a <;> cases l.mapM f <;> simp [pure, Except.pure]
    | cons b r =>
      simp only [List.mapM_cons, List.forall₂_cons, ← ih, bind, Except.bind]
      cases f a <;> cases l.mapM f <;> simp [pure, Except.pure]

lemma mapM_eq_error {f : α → Except ε β} {l : List α} {e : ε} (h : l.mapM f = .error e) :
    ∃ a ∈ l, f a = .error e := by
  induction l with
  | nil => cases h
  | cons a l ih =>
    rw [List.mapM_cons] at h
    cases ha : f a with
    | error e' =>
      simp only [ha, bind, Except.bind, Except.error.injEq] at h
      exact ⟨a, List.mem_cons_self _ _, h ▸ ha⟩
    | ok b =>
      cases hl : l.mapM f with
      | error e' =>
        simp only [ha, hl, bind, Except.bind, Except.error.injEq] at h
        obtain ⟨x, hx, hfx⟩ := ih (h ▸ hl)
        exact ⟨x, List.mem_cons_of_mem _ hx, hfx⟩
      | ok bs => simp only [ha, hl, bind, Except.bind, pure, Except.pure, reduceCtorEq] at h

lemma mapM_eq_ok_map {f : α → Except ε β} {g : α → β} {l : List α}
    (h : ∀ a ∈ l, f a = .ok (g a)) : l.mapM f = .ok (l.map g) := by
  rw [mapM_eq_ok_iff_forall₂, List.forall₂_map_right_iff]
  exact List.forall₂_same.mpr h

end ExceptOk

end Stubble
