import Stubble.DevicePath

/-!
# Device paths as lists of nodes

The UEFI layout of a device path: nodes of a 4-byte header and a payload, none of them an
end-entire node, then the end node. Over it, `device_path_startswith` is the prefix order on nodes,
the fallback of `device_path_to_str` joins the path names, and `make_file_device_path` appends one
file path node as long as its `Length` fits its 16 bits.
-/

namespace Stubble.Proofs

/-- A device path node: `Type`, `SubType` and the payload after the header, its `Length` within
the 16 bits of the field. -/
structure Node where
  type : UInt8
  subType : UInt8
  payload : List UInt8
  length_lt : sizeofDevicePath + payload.length < 2 ^ 16

/-- The node's `Length`. -/
def Node.length (n : Node) : Nat := sizeofDevicePath + n.payload.length

/-- The node's bytes in memory. -/
def Node.bytes (n : Node) : List UInt8 := [n.type, n.subType] ++ le16 n.length ++ n.payload

/-- An end-entire node. -/
def Node.IsEnd (n : Node) : Prop := n.type = endDevicePathType ∧ n.subType = endEntireDevicePathSubtype

instance (n : Node) : Decidable n.IsEnd := inferInstanceAs (Decidable (_ ∧ _))

/-- An end-terminated device path: its nodes before the end node. -/
structure DevicePath where
  nodes : List Node
  not_end : ∀ n ∈ nodes, ¬ n.IsEnd

/-- The bytes of a list of nodes. -/
def nodesBytes (ns : List Node) : List UInt8 := (ns.map Node.bytes).flatten

/-- Nodes in memory, then an end-entire node whose `Length` and whatever follows are `tail`. -/
def encodeNodes (ns : List Node) (tail : List UInt8) : List UInt8 :=
  nodesBytes ns ++ [endDevicePathType, endEntireDevicePathSubtype] ++ tail

/-- A device path in memory. -/
def DevicePath.encode (p : DevicePath) (tail : List UInt8) : List UInt8 := encodeNodes p.nodes tail

@[simp] lemma toNat_toUInt8 (n : Nat) : n.toUInt8.toNat = n % 256 := rfl

lemma ofLE_le16 (n : Nat) : ofLE (le16 n) = n % 2 ^ 16 := by
  simp only [le16, ofLE_cons, ofLE_nil, toNat_toUInt8]
  omega

@[simp] lemma length_le16 (n : Nat) : (le16 n).length = 2 := rfl

lemma Node.length_bytes (n : Node) : n.bytes.length = n.length := by
  simp only [Node.bytes, Node.length, List.length_append, length_le16, sizeofDevicePath]
  rfl

lemma nodesBytes_cons (n : Node) (ns : List Node) :
    nodesBytes (n :: ns) = n.bytes ++ nodesBytes ns := by
  simp only [nodesBytes, List.map_cons, List.flatten_cons]

@[simp] lemma encodeNodes_nil (tail : List UInt8) :
    encodeNodes [] tail = endDevicePathType :: endEntireDevicePathSubtype :: tail := rfl

@[simp] lemma encodeNodes_cons (n : Node) (ns : List Node) (tail : List UInt8) :
    encodeNodes (n :: ns) tail = n.bytes ++ encodeNodes ns tail := by
  simp only [encodeNodes, nodesBytes_cons, List.append_assoc]

/-! ## Reading a node's header -/

section Header
variable (n : Node) (rest : List UInt8)

@[simp] lemma devicePathType_bytes : devicePathType (n.bytes ++ rest) = n.type := rfl

@[simp] lemma devicePathSubType_bytes : devicePathSubType (n.bytes ++ rest) = n.subType := rfl

@[simp] lemma devicePathNodeLength_bytes : devicePathNodeLength (n.bytes ++ rest) = n.length := by
  simp only [devicePathNodeLength, fieldLE, Node.bytes, List.append_assoc, List.cons_append,
    List.drop_succ_cons, List.drop_zero, List.nil_append, List.take_left' (length_le16 _), ofLE_le16]
  exact Nat.mod_eq_of_lt n.length_lt

@[simp] lemma nextDevicePathNode_bytes : nextDevicePathNode (n.bytes ++ rest) = rest := by
  rw [nextDevicePathNode, devicePathNodeLength_bytes, ← n.length_bytes, List.drop_left]

lemma isDevicePathEnd_bytes : isDevicePathEnd (n.bytes ++ rest) = decide n.IsEnd := by
  simp only [isDevicePathEnd, devicePathType_bytes, devicePathSubType_bytes, Node.IsEnd,
    Bool.decide_and, beq_iff_eq]
  rfl

end Header

@[simp] lemma isDevicePathEnd_end (tail : List UInt8) :
    isDevicePathEnd (endDevicePathType :: endEntireDevicePathSubtype :: tail) = true := rfl

lemma isDevicePathEnd_bytes_eq_false {n : Node} (h : ¬ n.IsEnd) (rest : List UInt8) :
    isDevicePathEnd (n.bytes ++ rest) = false := by
  simpa [isDevicePathEnd_bytes] using h

lemma Node.ext_bytes {a b : Node} (h : a.bytes = b.bytes) : a = b := by
  obtain ⟨ta, sa, pa, ha⟩ := a
  obtain ⟨tb, sb, pb, hb⟩ := b
  simp only [Node.bytes, List.cons_append, List.nil_append, List.cons.injEq] at h
  obtain ⟨rfl, rfl, h⟩ := h
  have hp := congrArg (List.drop 2) h
  rw [List.drop_left' (length_le16 _), List.drop_left' (length_le16 _)] at hp
  subst hp
  rfl

instance : DecidableEq Node := fun a b =>
  decidable_of_iff (a.bytes = b.bytes) ⟨Node.ext_bytes, fun h => h ▸ rfl⟩

lemma take_length_bytes (n : Node) (rest : List UInt8) : (n.bytes ++ rest).take n.length = n.bytes := by
  rw [← n.length_bytes, List.take_left]

/-! ## `device_path_startswith` -/

/-- One iteration of the loop of `device_path_startswith` on two nodes other than the end node: it
goes on past both exactly when they are the same node. -/
lemma devicePathStartswithLoop_node {a b : Node} (ha : ¬ a.IsEnd) (hb : ¬ b.IsEnd)
    (sr dr : List UInt8) (fuel : Nat) :
    devicePathStartswithLoop (fuel + 1) (b.bytes ++ dr) (a.bytes ++ sr) =
      if a = b then devicePathStartswithLoop fuel dr sr else some false := by
  rw [devicePathStartswithLoop, isDevicePathEnd_bytes_eq_false ha, isDevicePathEnd_bytes_eq_false hb]
  simp only [devicePathNodeLength_bytes, nextDevicePathNode_bytes, Bool.false_eq_true, if_false,
    ne_eq, memcmp_eq_iff, take_length_bytes]
  by_cases hab : a = b
  · subst hab
    simp [take_length_bytes]
  rw [if_neg hab]
  split_ifs with hl hm <;> try rfl
  rw [hl, take_length_bytes] at hm
  exact absurd (Node.ext_bytes hm).symm hab

/-- The loop of `device_path_startswith` decides whether the nodes of `start` are a prefix of those
of `dp`, comparing nodes as whole byte strings, within one iteration more than `start` has nodes. -/
lemma devicePathStartswithLoop_encode (sn dn : List Node) (hs : ∀ n ∈ sn, ¬ n.IsEnd)
    (hd : ∀ n ∈ dn, ¬ n.IsEnd) (ts td : List UInt8) (fuel : Nat) (hfuel : sn.length < fuel) :
    ∃ b, devicePathStartswithLoop fuel (encodeNodes dn td) (encodeNodes sn ts) = some b ∧
      (b = true ↔ sn <+: dn) := by
  induction sn generalizing dn fuel with
  | nil =>
    obtain ⟨f, rfl⟩ := Nat.exists_eq_succ_of_ne_zero (by omega : fuel ≠ 0)
    exact ⟨true, rfl, iff_of_true rfl List.nil_prefix⟩
  | cons a sn ih =>
    obtain ⟨f, rfl⟩ := Nat.exists_eq_succ_of_ne_zero (by omega : fuel ≠ 0)
    have ha := hs a (List.mem_cons_self _ _)
    cases dn with
    | nil =>
      refine ⟨false, ?_, iff_of_false Bool.false_ne_true fun h => by simpa using h.length_le⟩
      simp [devicePathStartswithLoop, isDevicePathEnd_bytes_eq_false ha]
    | cons b dn =>
      rw [encodeNodes_cons, encodeNodes_cons,
        devicePathStartswithLoop_node ha (hd b (List.mem_cons_self _ _))]
      by_cases hab : a = b
      · subst hab
        obtain ⟨r, hr, hiff⟩ := ih dn (fun n hn => hs n (List.mem_cons_of_mem _ hn))
          (fun n hn => hd n (List.mem_cons_of_mem _ hn)) f (by simpa using hfuel)
        exact ⟨r, by rw [if_pos rfl, hr], by simpa using hiff⟩
      · exact ⟨false, if_neg hab,
          iff_of_false Bool.false_ne_true fun h => hab (List.cons_prefix_cons.mp h).1⟩

/-- `device_path_startswith` on device paths returns within one iteration more than `start` has
nodes: true exactly when `start` is NULL, or `dp` is not and the nodes of `start` are a prefix of
those of `dp`. -/
theorem devicePathStartswith_iff (dp start : Option (DevicePath × List UInt8)) (fuel : Nat)
    (hfuel : ∀ s ∈ start, s.1.nodes.length < fuel) :
    ∃ b, devicePathStartswith fuel (dp.map fun d => d.1.encode d.2)
        (start.map fun s => s.1.encode s.2) = some b ∧
      (b = true ↔ start = none ∨ ∃ s d, start = some s ∧ dp = some d ∧ s.1.nodes <+: d.1.nodes) := by
  rcases start with _ | ⟨s, ts⟩
  · exact ⟨true, rfl, by simp⟩
  rcases dp with _ | ⟨d, td⟩
  · exact ⟨false, rfl, by simp⟩
  obtain ⟨b, hb, hiff⟩ :=
    devicePathStartswithLoop_encode s.nodes d.nodes s.not_end d.not_end ts td fuel (hfuel _ rfl)
  exact ⟨b, hb, by simp [hiff]⟩

/-- A file path node naming `\a`. -/
def sampleNode : Node := ⟨mediaDevicePath, mediaFilepathDp, [0x5c, 0, 0x61, 0, 0, 0], by decide⟩

/-- The device path of `sampleNode` alone. -/
def sampleStart : DevicePath := ⟨[sampleNode], by decide⟩

/-- A device path of two copies of `sampleNode`. -/
def sampleDp : DevicePath := ⟨[sampleNode, sampleNode], by decide⟩

theorem devicePathStartswith_iff_sample :
    (∀ s ∈ some (sampleStart, ([] : List UInt8)), s.1.nodes.length < 2) ∧
    ∃ b, devicePathStartswith 2 ((some (sampleDp, ([] : List UInt8))).map fun d => d.1.encode d.2)
        ((some (sampleStart, ([] : List UInt8))).map fun s => s.1.encode s.2) = some b ∧
      (b = true ↔ some (sampleStart, ([] : List UInt8)) = none ∨
        ∃ s d, some (sampleStart, ([] : List UInt8)) = some s ∧
          some (sampleDp, ([] : List UInt8)) = some d ∧ s.1.nodes <+: d.1.nodes) :=
  have hfuel : ∀ s ∈ some (sampleStart, ([] : List UInt8)), s.1.nodes.length < 2 := by
    simp [sampleStart]
  ⟨hfuel, devicePathStartswith_iff _ _ 2 hfuel⟩

/-! ## Writing into a buffer -/

lemma writeBytes_append_replicate (a b : List UInt8) (k : Nat) :
    writeBytes (a ++ List.replicate (b.length + k) 0) a.length b = a ++ b ++ List.replicate k 0 := by
  simp only [writeBytes, List.take_left]
  rw [List.drop_append_eq_append_drop]
  simp [List.drop_replicate]

lemma writeBytes_append_of_le {a c bytes : List UInt8} {off : Nat} (h : off + bytes.length ≤ a.length) :
    writeBytes (a ++ c) off bytes = writeBytes a off bytes ++ c := by
  simp only [writeBytes, List.take_append_of_le_length (by omega : off ≤ a.length),
    List.drop_append_of_le_length h, List.append_assoc]

/-! ## The fallback of `device_path_to_str` -/

/-- What the fallback makes of one node: the status it stops with, `none` when it takes the node's
path name. -/
def nodeStatus (err : EfiStatus) (n : Node) : Option EfiStatus :=
  if n.type ≠ mediaDevicePath ∨ n.subType ≠ mediaFilepathDp then some err
  else if n.length ≤ sizeofDevicePath ∨ n.length % 2 ≠ 0 then some efiInvalidParameter
  else none

/-- A path name whose last `char16_t` is replaced by a backslash. -/
def replaceLastChar16 (b : List UInt8) : List UInt8 := b.take (b.length - 2) ++ [0x5c, 0]

/-- Path names one after another, the last character of each but the final one replaced by a
backslash. -/
def backslashJoin : List (List UInt8) → List UInt8
  | [] => []
  | [b] => b
  | b :: c :: bs => replaceLastChar16 b ++ backslashJoin (c :: bs)

/-- The text of a device path's nodes: the first node that is no file path, or whose `Length` is
too small or odd, decides the error; otherwise the path names joined, NULL for no nodes. -/
def pathNamesText (err : EfiStatus) (nodes : List Node) : Except EfiStatus (Option (List UInt8)) :=
  match nodes.findSome? (nodeStatus err) with
  | some e => .error e
  | none => .ok (if nodes.isEmpty then none else some (backslashJoin (nodes.map Node.payload)))

lemma pathNamesText_eq_ok_some {err : EfiStatus} {nodes : List Node} {b : List UInt8}
    (h : pathNamesText err nodes = .ok (some b)) :
    (∀ n ∈ nodes, nodeStatus err n = none) ∧ b = backslashJoin (nodes.map Node.payload) := by
  unfold pathNamesText at h
  rcases hf : nodes.findSome? (nodeStatus err) with _ | e <;> rw [hf] at h
  · split_ifs at h <;> cases h
    exact ⟨List.findSome?_eq_none_iff.mp hf, rfl⟩
  · cases h

lemma length_replaceLastChar16 {b : List UInt8} (h : 2 ≤ b.length) :
    (replaceLastChar16 b).length = b.length := by
  simp only [replaceLastChar16, List.length_append, List.length_take, List.length_cons,
    List.length_nil]
  omega

lemma replaceLastChar16_append (a : List UInt8) {c : List UInt8} (h : 2 ≤ c.length) :
    replaceLastChar16 (a ++ c) = a ++ replaceLastChar16 c := by
  have hk : a.length + c.length - 2 - a.length = c.length - 2 := by omega
  simp only [replaceLastChar16, List.length_append, List.append_assoc, List.take_append_eq_append_take,
    List.take_of_length_le (by omega : a.length ≤ a.length + c.length - 2), hk]

lemma length_backslashJoin (bs : List (List UInt8)) (h : ∀ b ∈ bs, 2 ≤ b.length) :
    (backslashJoin bs).length = (bs.map List.length).sum := by
  induction bs with
  | nil => rfl
  | cons b bs ih =>
    cases bs with
    | nil => simp [backslashJoin]
    | cons c bs =>
      simp only [backslashJoin, List.length_append, List.map_cons, List.sum_cons,
        length_replaceLastChar16 (h b (List.mem_cons_self _ _))]
      rw [ih fun x hx => h x (List.mem_cons_of_mem _ hx)]
      simp

lemma backslashJoin_append_single (bs : List (List UInt8)) (hne : bs ≠ [])
    (h : ∀ b ∈ bs, 2 ≤ b.length) (p : List UInt8) :
    backslashJoin (bs ++ [p]) = replaceLastChar16 (backslashJoin bs) ++ p := by
  induction bs with
  | nil => exact absurd rfl hne
  | cons b bs ih =>
    cases bs with
    | nil => rfl
    | cons c bs =>
      have hc : 2 ≤ (backslashJoin (c :: bs)).length := by
        rw [length_backslashJoin _ fun x hx => h x (List.mem_cons_of_mem _ hx)]
        have := h c (List.mem_cons_of_mem _ (List.mem_cons_self _ _))
        simp only [List.map_cons, List.sum_cons]
        omega
      calc backslashJoin (b :: c :: bs ++ [p])
          = replaceLastChar16 b ++ backslashJoin (c :: bs ++ [p]) := rfl
        _ = replaceLastChar16 b ++ (replaceLastChar16 (backslashJoin (c :: bs)) ++ p) := by
          rw [ih (List.cons_ne_nil _ _) fun x hx => h x (List.mem_cons_of_mem _ hx)]
        _ = replaceLastChar16 (backslashJoin (b :: c :: bs)) ++ p := by
          rw [backslashJoin, replaceLastChar16_append _ hc, List.append_assoc]

/-- One iteration of the fallback on a string of `old.length` bytes: the old string with its last
character replaced by a backslash, then the new path name. -/
lemma writeBytes_pathName (old p : List UInt8) (h2 : 2 ≤ old.length) (heven : old.length % 2 = 0) :
    writeBytes (writeBytes (writeBytes (List.replicate (old.length + p.length) 0) 0
        (old.take old.length)) (2 * (old.length / 2 - 1)) [0x5c, 0]) (2 * (old.length / 2)) p =
      replaceLastChar16 old ++ p := by
  have h1 : 2 * (old.length / 2 - 1) = old.length - 2 := by omega
  have h3 : 2 * (old.length / 2) = (replaceLastChar16 old).length := by
    rw [length_replaceLastChar16 h2]
    omega
  have hfirst := writeBytes_append_replicate [] old p.length
  rw [List.nil_append, List.length_nil, List.nil_append] at hfirst
  rw [List.take_length, hfirst, h1, writeBytes_append_of_le (by simp; omega), h3]
  have hlast : writeBytes old (old.length - 2) [0x5c, 0] = replaceLastChar16 old := by
    simp only [writeBytes, replaceLastChar16, List.length_cons, List.length_nil]
    rw [List.drop_of_length_le (by omega), List.append_nil]
  simpa only [hlast, Nat.add_zero, List.replicate_zero, List.append_nil] using
    writeBytes_append_replicate (replaceLastChar16 old) p 0

lemma payload_length_of_nodeStatus {err : EfiStatus} {n : Node} (h : nodeStatus err n = none) :
    2 ≤ n.payload.length ∧ n.payload.length % 2 = 0 := by
  unfold nodeStatus at h
  split_ifs at h with h1 h2
  simp only [Node.length, sizeofDevicePath, not_or, not_le, ne_eq, not_not] at h2
  omega

lemma sum_map_length_append_single (done : List (List UInt8)) (p : List UInt8) :
    ((done ++ [p]).map List.length).sum = (done.map List.length).sum + p.length := by
  induction done with
  | nil => simp
  | cons b done ih => simp only [List.cons_append, List.map_cons, List.sum_cons, ih, Nat.add_assoc]

lemma sum_map_length_even (bs : List (List UInt8)) (h : ∀ b ∈ bs, b.length % 2 = 0) :
    (bs.map List.length).sum % 2 = 0 := by
  induction bs with
  | nil => rfl
  | cons b bs ih =>
    have := h b (List.mem_cons_self _ _)
    have := ih fun x hx => h x (List.mem_cons_of_mem _ hx)
    simp only [List.map_cons, List.sum_cons]
    omega

lemma isEmpty_append_single (done : List (List UInt8)) (p : List UInt8) :
    (done ++ [p]).isEmpty = false := by
  cases done <;> rfl

/-- One iteration of the fallback on a node other than the end node: the node's status stops it,
else the loop goes on past the node with its path name written after the `size` bytes of `str`. -/
lemma devicePathToStrFallback_node (err : EfiStatus) {n : Node} (hn : ¬ n.IsEnd) (rest : List UInt8)
    (fuel size : Nat) (str : Option (List UInt8)) :
    devicePathToStrFallback err (fuel + 1) (n.bytes ++ rest) size str =
      (nodeStatus err n).elim
        (devicePathToStrFallback err fuel rest (size + n.payload.length) (some (writeBytes
          (str.elim (List.replicate (size + n.payload.length) 0) fun old =>
            writeBytes (writeBytes (List.replicate (size + n.payload.length) 0) 0 (old.take size))
              (2 * (size / 2 - 1)) [0x5c, 0])
          (2 * (size / 2)) n.payload)))
        fun e => some (.error e) := by
  have hpay : ((n.bytes ++ rest).drop sizeofDevicePath).take n.payload.length = n.payload := by
    simp only [Node.bytes, sizeofDevicePath, List.append_assoc, List.cons_append, List.nil_append,
      le16, List.drop_succ_cons, List.drop_zero, List.take_left]
  rw [devicePathToStrFallback, isDevicePathEnd_bytes_eq_false hn, nodeStatus]
  simp only [devicePathType_bytes, devicePathSubType_bytes, devicePathNodeLength_bytes,
    nextDevicePathNode_bytes, Bool.false_eq_true, if_false, Node.length, Nat.add_sub_cancel_left]
  split_ifs <;> try rfl
  rw [hpay]
  cases str <;> rfl

/-- The string the fallback builds from the path names `done` and one more name `p`: the names of
`done ++ [p]` joined. -/
lemma writeBytes_fallback_join (done : List (List UInt8))
    (hdone : ∀ b ∈ done, 2 ≤ b.length ∧ b.length % 2 = 0) (p : List UInt8) :
    writeBytes ((if done.isEmpty then none else some (backslashJoin done)).elim
        (List.replicate ((done.map List.length).sum + p.length) 0) fun old =>
          writeBytes (writeBytes (List.replicate ((done.map List.length).sum + p.length) 0) 0
            (old.take (done.map List.length).sum)) (2 * ((done.map List.length).sum / 2 - 1))
            [0x5c, 0])
        (2 * ((done.map List.length).sum / 2)) p = backslashJoin (done ++ [p]) := by
  rcases done with _ | ⟨c, cs⟩
  · simpa [backslashJoin] using writeBytes_append_replicate [] p 0
  have h2s : ∀ b ∈ c :: cs, 2 ≤ b.length := fun b hb => (hdone b hb).1
  have hlen := length_backslashJoin _ h2s
  have heven : (backslashJoin (c :: cs)).length % 2 = 0 := by
    rw [hlen]
    exact sum_map_length_even _ fun b hb => (hdone b hb).2
  have hge : 2 ≤ (backslashJoin (c :: cs)).length := by
    rw [hlen, List.map_cons, List.sum_cons]
    have := h2s c (List.mem_cons_self _ _)
    omega
  simp only [List.isEmpty_cons, Bool.false_eq_true, if_false, Option.elim]
  rw [← hlen, writeBytes_pathName _ _ hge heven,
    ← backslashJoin_append_single _ (List.cons_ne_nil _ _) h2s]

/-- The fallback loop from a string of the path names `done`: it ends with the status of the first
node it refuses, or with the names of `done` and of the remaining nodes joined. -/
lemma devicePathToStrFallback_encode (err : EfiStatus) (ns : List Node)
    (hns : ∀ n ∈ ns, ¬ n.IsEnd) (tail : List UInt8) (done : List (List UInt8))
    (hdone : ∀ b ∈ done, 2 ≤ b.length ∧ b.length % 2 = 0) (fuel : Nat) (hfuel : ns.length < fuel) :
    devicePathToStrFallback err fuel (encodeNodes ns tail) (done.map List.length).sum
        (if done.isEmpty then none else some (backslashJoin done)) =
      some (match ns.findSome? (nodeStatus err) with
        | some e => .error e
        | none => .ok (if done.isEmpty && ns.isEmpty then none
            else some (backslashJoin (done ++ ns.map Node.payload)))) := by
  induction ns generalizing done fuel with
  | nil =>
    obtain ⟨f, rfl⟩ := Nat.exists_eq_succ_of_ne_zero (by omega : fuel ≠ 0)
    simp [devicePathToStrFallback]
  | cons n ns ih =>
    obtain ⟨f, rfl⟩ := Nat.exists_eq_succ_of_ne_zero (by omega : fuel ≠ 0)
    rw [encodeNodes_cons, devicePathToStrFallback_node err (hns n (List.mem_cons_self _ _)),
      List.findSome?_cons]
    rcases hs : nodeStatus err n with _ | e
    · have hdone' : ∀ b ∈ done ++ [n.payload], 2 ≤ b.length ∧ b.length % 2 = 0 := by
        intro b hb
        rcases List.mem_append.mp hb with hb | hb
        · exact hdone b hb
        · exact List.mem_singleton.mp hb ▸ payload_length_of_nodeStatus hs
      have hrec := ih (fun m hm => hns m (List.mem_cons_of_mem _ hm)) _ hdone' f (by simpa using hfuel)
      rw [sum_map_length_append_single, isEmpty_append_single, if_neg Bool.false_ne_true] at hrec
      rw [Option.elim, writeBytes_fallback_join done hdone, hrec]
      simp
    · rfl

/-- The status the fallback stops with at a node whose `Length` is at most 4, which leaves no room
for a path name (a `Node` cannot have a `Length` below 4): the protocol's status for a node that is
no file path node, `EFI_INVALID_PARAMETER` for one that is. -/
def shortNodeStatus (err : EfiStatus) (type subType : UInt8) : EfiStatus :=
  if type ≠ mediaDevicePath ∨ subType ≠ mediaFilepathDp then err else efiInvalidParameter

/-- The fallback stops at a node other than the end node whose `Length` is at most 4. -/
lemma devicePathToStrFallback_short (err : EfiStatus) {type subType : UInt8}
    (hend : ¬ (type = endDevicePathType ∧ subType = endEntireDevicePathSubtype)) {len : Nat}
    (hlen : len ≤ sizeofDevicePath) (rest : List UInt8) (fuel size : Nat) (str : Option (List UInt8)) :
    devicePathToStrFallback err (fuel + 1) ([type, subType] ++ le16 len ++ rest) size str =
      some (.error (shortNodeStatus err type subType)) := by
  have hl : devicePathNodeLength ([type, subType] ++ le16 len ++ rest) = len := by
    simp only [devicePathNodeLength, fieldLE, List.append_assoc, List.cons_append, List.nil_append,
      List.drop_succ_cons, List.drop_zero, List.take_left' (length_le16 _), ofLE_le16]
    exact Nat.mod_eq_of_lt (by unfold sizeofDevicePath at hlen; omega)
  have hne : isDevicePathEnd ([type, subType] ++ le16 len ++ rest) = false := by
    simpa [isDevicePathEnd, devicePathType, devicePathSubType] using hend
  rw [devicePathToStrFallback, hne, hl, shortNodeStatus]
  simp only [devicePathType, devicePathSubType, List.append_assoc, List.cons_append,
    List.getD_cons_zero, List.getD_cons_succ, Bool.false_eq_true, if_false, hlen, true_or, if_true]
  split_ifs <;> rfl

/-- The fallback on well-formed nodes followed by one whose `Length` is at most 4 stops with the
status of the first node it refuses, the short node at the latest: it never walks past it. -/
lemma devicePathToStrFallback_short_after (err : EfiStatus) (ns : List Node) (hns : ∀ n ∈ ns, ¬ n.IsEnd)
    {type subType : UInt8} (hend : ¬ (type = endDevicePathType ∧ subType = endEntireDevicePathSubtype))
    {len : Nat} (hlen : len ≤ sizeofDevicePath) (rest : List UInt8) (fuel size : Nat)
    (str : Option (List UInt8)) (hfuel : ns.length < fuel) :
    devicePathToStrFallback err fuel (nodesBytes ns ++ ([type, subType] ++ le16 len ++ rest)) size str =
      some (.error ((ns.findSome? (nodeStatus err)).getD (shortNodeStatus err type subType))) := by
  obtain ⟨f, rfl⟩ := Nat.exists_eq_succ_of_ne_zero (by omega : fuel ≠ 0)
  induction ns generalizing f size str with
  | nil => exact devicePathToStrFallback_short err hend hlen rest f size str
  | cons n ns ih =>
    obtain ⟨g, rfl⟩ := Nat.exists_eq_succ_of_ne_zero (by simp at hfuel; omega : f ≠ 0)
    rw [nodesBytes_cons, List.append_assoc, devicePathToStrFallback_node err (hns n (List.mem_cons_self _ _)),
      List.findSome?_cons]
    cases nodeStatus err n with
    | none => exact ih (fun m hm => hns m (List.mem_cons_of_mem _ hm)) _ _ g (by simpa using hfuel)
    | some e => rfl

/-- Path names that end in a NUL character are joined into one NUL-terminated string, a backslash
between two names. -/
lemma backslashJoin_nul_terminated (names : List (List UInt8)) (hne : names ≠ []) :
    backslashJoin (names.map (· ++ [0, 0])) = [0x5c, 0].intercalate names ++ [0, 0] := by
  induction names with
  | nil => exact absurd rfl hne
  | cons a names ih =>
    cases names with
    | nil => simp [backslashJoin, List.intercalate]
    | cons b names =>
      have hrl : replaceLastChar16 (a ++ [0, 0]) = a ++ [0x5c, 0] := by
        simp only [replaceLastChar16, List.length_append, List.length_cons, List.length_nil,
          Nat.add_sub_cancel, List.take_left]
      have ih' := ih (List.cons_ne_nil _ _)
      rw [List.map_cons] at ih'
      rw [List.map_cons, List.map_cons, backslashJoin, hrl, ih']
      simp [List.intercalate, List.intersperse_cons_cons]

/-- Without the device-path-to-text protocol, `device_path_to_str` stops at the first node that is
no file path node, with the protocol's status, or whose `Length` is too small or odd, with
`EFI_INVALID_PARAMETER`. Otherwise it returns NULL for no nodes, and else the path names joined:
`Length - 4` bytes a node, each name but the last with its final character replaced by a
backslash, which for NUL-terminated names is their backslash-join with one NUL. A node whose
`Length` is at most 4 stops it too, so it never walks past such a node. -/
theorem devicePathToStr_fallback (bs : BootServices) (err : EfiStatus) (hloc : bs.locateDevicePathToText = .error err)
    (p : DevicePath) (tail : List UInt8) (fuel : Nat) (hfuel : p.nodes.length < fuel) :
    devicePathToStr bs fuel (p.encode tail) = some (pathNamesText err p.nodes) ∧
    (∀ b, pathNamesText err p.nodes = .ok (some b) →
      b.length = (p.nodes.map fun n => n.length - sizeofDevicePath).sum) ∧
    (∀ names : List (List UInt8), p.nodes ≠ [] → p.nodes.map Node.payload = names.map (· ++ [0, 0]) →
      (∀ n ∈ p.nodes, nodeStatus err n = none) →
      pathNamesText err p.nodes = .ok (some ([0x5c, 0].intercalate names ++ [0, 0]))) ∧
    (∀ (ns : List Node) (type subType : UInt8) (len : Nat) (rest : List UInt8),
      (∀ n ∈ ns, ¬ n.IsEnd) → ¬ (type = endDevicePathType ∧ subType = endEntireDevicePathSubtype) →
      len ≤ sizeofDevicePath → ns.length < fuel →
      devicePathToStr bs fuel (nodesBytes ns ++ ([type, subType] ++ le16 len ++ rest)) =
        some (.error ((ns.findSome? (nodeStatus err)).getD (shortNodeStatus err type subType)))) := by
  refine ⟨?_, fun b hb => ?_, fun names hne hnames hok => ?_,
    fun ns type subType len rest hns hend hlen hfuel' => ?_⟩
  · have h := devicePathToStrFallback_encode err p.nodes p.not_end tail [] (by simp) fuel hfuel
    simp only [List.map_nil, List.sum_nil, List.isEmpty_nil, if_true, Bool.true_and,
      List.nil_append] at h
    simp only [devicePathToStr, hloc]
    rw [DevicePath.encode, h, pathNamesText]
  · obtain ⟨hok, rfl⟩ := pathNamesText_eq_ok_some hb
    rw [length_backslashJoin _ (by simpa using fun n hn => (payload_length_of_nodeStatus (hok n hn)).1),
      List.map_map]
    simp [Function.comp_def, Node.length]
  · have hf : p.nodes.findSome? (nodeStatus err) = none := List.findSome?_eq_none_iff.mpr hok
    rw [pathNamesText, hf, hnames,
      backslashJoin_nul_terminated names (by rintro rfl; simp_all)]
    simp [hne]
  · simp only [devicePathToStr, hloc]
    exact devicePathToStrFallback_short_after err ns hns hend hlen rest fuel 0 none hfuel'

/-- Firmware without the device-path-to-text protocol (`EFI_NOT_FOUND`), whose devices all have the
device path `sampleStart`. -/
def sampleFirmware : BootServices :=
  ⟨fun _ => .ok (sampleStart.encode (le16 sizeofDevicePath)), .error (2 ^ 63 + 14)⟩

theorem devicePathToStr_fallback_sample :
    sampleFirmware.locateDevicePathToText = .error (2 ^ 63 + 14) ∧ sampleDp.nodes.length < 3 ∧
    devicePathToStr sampleFirmware 3 (sampleDp.encode []) =
      some (pathNamesText (2 ^ 63 + 14) sampleDp.nodes) ∧
    (∀ b, pathNamesText (2 ^ 63 + 14) sampleDp.nodes = .ok (some b) →
      b.length = (sampleDp.nodes.map fun n => n.length - sizeofDevicePath).sum) ∧
    (∀ names : List (List UInt8), sampleDp.nodes ≠ [] →
      sampleDp.nodes.map Node.payload = names.map (· ++ [0, 0]) →
      (∀ n ∈ sampleDp.nodes, nodeStatus (2 ^ 63 + 14) n = none) →
      pathNamesText (2 ^ 63 + 14) sampleDp.nodes =
        .ok (some ([0x5c, 0].intercalate names ++ [0, 0]))) ∧
    (∀ (ns : List Node) (type subType : UInt8) (len : Nat) (rest : List UInt8),
      (∀ n ∈ ns, ¬ n.IsEnd) → ¬ (type = endDevicePathType ∧ subType = endEntireDevicePathSubtype) →
      len ≤ sizeofDevicePath → ns.length < 3 →
      devicePathToStr sampleFirmware 3 (nodesBytes ns ++ ([type, subType] ++ le16 len ++ rest)) =
        some (.error ((ns.findSome? (nodeStatus (2 ^ 63 + 14))).getD
          (shortNodeStatus (2 ^ 63 + 14) type subType)))) :=
  ⟨rfl, by decide, devicePathToStr_fallback sampleFirmware _ rfl sampleDp [] 3 (by decide)⟩

/-! ## `make_file_device_path` -/

lemma endNodeOffset_encode (ns : List Node) (hns : ∀ n ∈ ns, ¬ n.IsEnd) (tail : List UInt8)
    (fuel : Nat) (hfuel : ns.length < fuel) :
    endNodeOffset fuel (encodeNodes ns tail) = some (nodesBytes ns).length := by
  induction ns generalizing fuel with
  | nil =>
    obtain ⟨f, rfl⟩ := Nat.exists_eq_succ_of_ne_zero (by omega : fuel ≠ 0)
    rfl
  | cons n ns ih =>
    obtain ⟨f, rfl⟩ := Nat.exists_eq_succ_of_ne_zero (by omega : fuel ≠ 0)
    rw [endNodeOffset, encodeNodes_cons, isDevicePathEnd_bytes_eq_false (hns n (List.mem_cons_self _ _)),
      if_neg Bool.false_ne_true, nextDevicePathNode_bytes,
      ih (fun m hm => hns m (List.mem_cons_of_mem _ hm)) f (by simpa using hfuel),
      devicePathNodeLength_bytes, nodesBytes_cons, List.length_append, Node.length_bytes]
    rfl

@[simp] lemma length_char16Bytes (s : List UInt16) : (char16Bytes s).length = 2 * s.length := by
  induction s with
  | nil => rfl
  | cons c s ih =>
    simp only [char16Bytes, List.flatMap_cons, List.length_append, List.length_cons,
      List.length_nil] at ih ⊢
    omega

/-- The `PathName` of a file path node for `file`: its characters and their NUL. -/
def pathName (file : List UInt16) : List UInt8 := char16Bytes (file.takeWhile (· != 0) ++ [0])

lemma length_pathName (file : List UInt16) : (pathName file).length = strsize16 file := by
  simp only [pathName, length_char16Bytes, List.length_append, List.length_singleton, strsize16,
    strlen16]
  omega

/-- `memcpy` of `strsize16(file)` bytes copies the characters of a NUL-terminated `file` and the
NUL. -/
lemma char16Bytes_take_strsize16 {file : List UInt16} (hnul : 0 ∈ file) :
    (char16Bytes file).take (strsize16 file) = pathName file := by
  induction file with
  | nil => simp at hnul
  | cons c file ih =>
    by_cases hc : c = 0
    · subst hc
      rfl
    · have hfile : 0 ∈ file := (List.mem_cons.mp hnul).resolve_left (Ne.symm hc)
      have hstep : strsize16 (c :: file) = 2 + strsize16 file := by
        simp only [strsize16, strlen16, List.takeWhile_cons, bne_iff_ne, ne_eq, hc,
          not_false_eq_true, if_true, List.length_cons]
        omega
      rw [hstep, char16Bytes, List.flatMap_cons, List.take_append_eq_append_take]
      simp only [List.length_cons, List.length_nil, List.take_of_length_le (by simp : [c.toNat.toUInt8,
        (c.toNat / 256).toUInt8].length ≤ 2 + strsize16 file), Nat.add_sub_cancel_left]
      rw [← char16Bytes, ih hfile]
      simp [pathName, char16Bytes, List.takeWhile_cons, hc]

lemma writeBytes_append_replicate' {a b : List UInt8} {off n k : Nat} (hoff : off = a.length)
    (hn : n = b.length + k) :
    writeBytes (a ++ List.replicate n 0) off b = a ++ b ++ List.replicate k 0 := by
  subst hoff hn
  exact writeBytes_append_replicate a b k

lemma writeBytes_replicate_zero {b : List UInt8} {n k : Nat} (hn : n = b.length + k) :
    writeBytes (List.replicate n 0) 0 b = b ++ List.replicate k 0 := by
  simpa using @writeBytes_append_replicate' [] b 0 n k rfl hn

/-- The header of the file path node `make_file_device_path` writes for `file`. -/
def fileNodeHeader (file : List UInt16) : List UInt8 :=
  [mediaDevicePath, mediaFilepathDp] ++ le16 (sizeofDevicePath + strsize16 file)

/-- The buffer `make_file_device_path` returns for a device path: the device's nodes, the file path
node, and an end node written `Length` bytes after the start of the file path node, that `Length`
taken modulo `2 ^ 16`. -/
lemma makeFileDevicePath_eq (bs : BootServices) (d : DevicePath) (tail : List UInt8) {device : Nat}
    (hdev : bs.handleProtocol device = .ok (d.encode tail)) {file : List UInt16} (hnul : 0 ∈ file)
    {fuel : Nat} (hfuel : d.nodes.length < fuel) :
    makeFileDevicePath bs fuel device file = some (.ok (writeBytes
      (nodesBytes d.nodes ++ fileNodeHeader file ++ pathName file ++
        List.replicate sizeofDevicePath 0)
      ((nodesBytes d.nodes).length + (sizeofDevicePath + strsize16 file) % 2 ^ 16)
      devicePathEndNode)) := by
  have hD := endNodeOffset_encode d.nodes d.not_end tail fuel hfuel
  have htake : (encodeNodes d.nodes tail).take (nodesBytes d.nodes).length = nodesBytes d.nodes := by
    rw [encodeNodes, List.append_assoc, List.take_left]
  have hheader : [mediaDevicePath, mediaFilepathDp] ++ le16 (sizeofDevicePath + strsize16 file) =
      fileNodeHeader file := rfl
  have hbuf : writeBytes (writeBytes (writeBytes (List.replicate ((nodesBytes d.nodes).length +
      strsize16 file + sizeofDevicePath + sizeofDevicePath) 0) 0 (nodesBytes d.nodes))
      (nodesBytes d.nodes).length (fileNodeHeader file))
      ((nodesBytes d.nodes).length + sizeofDevicePath) (pathName file) =
      nodesBytes d.nodes ++ fileNodeHeader file ++ pathName file ++
        List.replicate sizeofDevicePath 0 := by
    rw [writeBytes_replicate_zero (show _ = (nodesBytes d.nodes).length +
        ((fileNodeHeader file).length + ((pathName file).length + sizeofDevicePath)) by
          simp only [length_pathName, fileNodeHeader, List.length_append, List.length_cons,
            List.length_nil, length_le16, sizeofDevicePath]
          omega),
      writeBytes_append_replicate' rfl rfl,
      writeBytes_append_replicate' (by simp [fileNodeHeader, sizeofDevicePath]) rfl]
  have hread : devicePathNodeLength ((nodesBytes d.nodes ++ fileNodeHeader file ++ pathName file ++
      List.replicate sizeofDevicePath 0).drop (nodesBytes d.nodes).length) =
      (sizeofDevicePath + strsize16 file) % 2 ^ 16 := by
    simp only [List.append_assoc, List.drop_left, devicePathNodeLength, fieldLE, fileNodeHeader,
      List.cons_append, List.drop_succ_cons, List.drop_zero, List.nil_append,
      List.take_left' (length_le16 _), ofLE_le16]
  simp only [makeFileDevicePath, hdev, DevicePath.encode, hD, Option.map_some', htake,
    char16Bytes_take_strsize16 hnul, hheader, hbuf, hread]

lemma nodesBytes_append (a b : List Node) : nodesBytes (a ++ b) = nodesBytes a ++ nodesBytes b := by
  simp only [nodesBytes, List.map_append, List.flatten_append]

/-- The file path node `make_file_device_path` appends: `file` and its NUL. -/
def fileNode (file : List UInt16) (hfit : sizeofDevicePath + strsize16 file < 2 ^ 16) : Node :=
  ⟨mediaDevicePath, mediaFilepathDp, pathName file, by rwa [length_pathName]⟩

/-- A device path followed by the file path node of `file`. -/
def DevicePath.withFile (d : DevicePath) (file : List UInt16)
    (hfit : sizeofDevicePath + strsize16 file < 2 ^ 16) : DevicePath :=
  ⟨d.nodes ++ [fileNode file hfit], fun m hm => by
    rcases List.mem_append.1 hm with h | h
    · exact d.not_end m h
    · exact List.mem_singleton.1 h ▸ fun he =>
        absurd he.1 (show mediaDevicePath ≠ endDevicePathType by decide)⟩

/-- When the new node's `Length` fits its 16 bits, `make_file_device_path` returns the device's
path extended by the file path node, end-terminated. -/
lemma makeFileDevicePath_encode (bs : BootServices) (d : DevicePath) (tail : List UInt8)
    {device : Nat} (hdev : bs.handleProtocol device = .ok (d.encode tail)) {file : List UInt16}
    (hnul : 0 ∈ file) (hfit : sizeofDevicePath + strsize16 file < 2 ^ 16) {fuel : Nat}
    (hfuel : d.nodes.length < fuel) :
    makeFileDevicePath bs fuel device file =
      some (.ok ((d.withFile file hfit).encode (le16 sizeofDevicePath))) := by
  rw [makeFileDevicePath_eq bs d tail hdev hnul hfuel, Nat.mod_eq_of_lt hfit]
  have hbytes : (fileNode file hfit).bytes = fileNodeHeader file ++ pathName file := by
    simp [Node.bytes, fileNodeHeader, Node.length, fileNode, length_pathName]
  rw [writeBytes_append_replicate' (by simp [fileNodeHeader, length_pathName, sizeofDevicePath]; omega)
    (by rfl : sizeofDevicePath = devicePathEndNode.length + 0)]
  have hnil : nodesBytes [] = [] := rfl
  simp only [DevicePath.encode, DevicePath.withFile, encodeNodes, nodesBytes_append, nodesBytes_cons,
    hnil, hbytes, devicePathEndNode, List.replicate_zero, List.append_nil, List.append_assoc]

/-- When `sizeof(FILEPATH_DEVICE_PATH) + strsize16(file)` fits the 16-bit `Length`,
`make_file_device_path` returns an end-terminated device path: the device's nodes, then one
`MEDIA_DEVICE_PATH`/`MEDIA_FILEPATH_DP` node of that `Length` holding `file` and its NUL. -/
theorem makeFileDevicePath_appends (bs : BootServices) (d : DevicePath) (tail : List UInt8)
    (device : Nat) (hdev : bs.handleProtocol device = .ok (d.encode tail)) (file : List UInt16)
    (hnul : 0 ∈ file) (hfit : sizeofDevicePath + strsize16 file < 2 ^ 16) (fuel : Nat)
    (hfuel : d.nodes.length < fuel) :
    ∃ q : DevicePath,
      makeFileDevicePath bs fuel device file = some (.ok (q.encode (le16 sizeofDevicePath))) ∧
      ∃ n, q.nodes = d.nodes ++ [n] ∧ n.type = mediaDevicePath ∧ n.subType = mediaFilepathDp ∧
        n.length = sizeofDevicePath + strsize16 file ∧ n.payload = pathName file :=
  ⟨d.withFile file hfit, makeFileDevicePath_encode bs d tail hdev hnul hfit hfuel, fileNode file hfit,
    rfl, rfl, rfl, by simp [fileNode, Node.length, length_pathName], rfl⟩

theorem makeFileDevicePath_appends_sample :
    sampleFirmware.handleProtocol 0 = .ok (sampleStart.encode (le16 sizeofDevicePath)) ∧
    (0 : UInt16) ∈ [0x61, 0] ∧ sizeofDevicePath + strsize16 [0x61, 0] < 2 ^ 16 ∧
    sampleStart.nodes.length < 2 ∧
    ∃ q : DevicePath, makeFileDevicePath sampleFirmware 2 0 [0x61, 0] =
        some (.ok (q.encode (le16 sizeofDevicePath))) ∧
      ∃ n, q.nodes = sampleStart.nodes ++ [n] ∧ n.type = mediaDevicePath ∧
        n.subType = mediaFilepathDp ∧ n.length = sizeofDevicePath + strsize16 [0x61, 0] ∧
        n.payload = pathName [0x61, 0] :=
  ⟨rfl, by decide, by decide, by decide,
    makeFileDevicePath_appends sampleFirmware sampleStart _ 0 rfl [0x61, 0] (by decide) (by decide) 2
      (by decide)⟩

lemma strlen16_replicate_append_nul {k : Nat} {c : UInt16} (hc : c ≠ 0) :
    strlen16 (List.replicate k c ++ [0]) = k := by
  induction k with
  | zero => rfl
  | succ k ih =>
    rw [strlen16, List.replicate_succ, List.cons_append, List.takeWhile_cons, if_pos (bne_iff_ne.2 hc),
      List.length_cons, ← strlen16, ih]

/-- A name of 32767 characters: `sizeof(FILEPATH_DEVICE_PATH) + strsize16(file)` is `65540`, the
16-bit `Length` of the new node keeps `4`, and the end node is written right after the node's
header, over the name. -/
theorem makeFileDevicePath_long_name :
    (makeFileDevicePath sampleFirmware 2 0 (List.replicate 32767 0x61 ++ [0])).map
      (Except.map fun buf => (devicePathNodeLength (buf.drop 10), isDevicePathEnd (buf.drop 14))) =
      some (.ok (4, true)) := by
  have hs : strsize16 (List.replicate 32767 0x61 ++ [0]) = 2 ^ 16 := by
    rw [strsize16, strlen16_replicate_append_nul (by decide)]
    rfl
  have hN : (nodesBytes sampleStart.nodes).length = 10 := rfl
  have hH : fileNodeHeader (List.replicate 32767 0x61 ++ [0]) = [mediaDevicePath, mediaFilepathDp, 4, 0] := by
    rw [fileNodeHeader, hs]
    rfl
  have hm : 10 + (sizeofDevicePath + 2 ^ 16) % 2 ^ 16 = 14 := rfl
  rw [makeFileDevicePath_eq sampleFirmware sampleStart (le16 sizeofDevicePath) rfl
      (List.mem_append_right _ (List.mem_singleton_self 0)) (by decide),
    hN, hs, hH, writeBytes, hm, List.append_assoc (nodesBytes _ ++ _),
    List.take_left' (by rw [List.length_append, hN]; rfl)]
  simp only [Option.map_some', Except.map, List.append_assoc, List.drop_left' hN]
  rfl


/-! ## `device_path_replace_node` -/

/-- The offset from `dp` of the node that `k` calls of `NextDevicePathNode` reach. -/
def nodeOffset : Nat → List UInt8 → Nat
  | 0, _ => 0
  | k + 1, dp => devicePathNodeLength dp + nodeOffset k (nextDevicePathNode dp)

/-- Walking `k` nodes into a device path, the end node at most, passes the bytes of its first `k`
nodes. -/
lemma nodeOffset_encode (ns : List Node) (tail : List UInt8) (k : Nat) (hk : k ≤ ns.length) :
    nodeOffset k (encodeNodes ns tail) = (nodesBytes (ns.take k)).length := by
  induction ns generalizing k with
  | nil =>
    obtain rfl : k = 0 := Nat.le_zero.mp hk
    rfl
  | cons n ns ih =>
    cases k with
    | zero => rfl
    | succ k =>
      rw [nodeOffset, encodeNodes_cons, devicePathNodeLength_bytes, nextDevicePathNode_bytes,
        ih k (Nat.le_of_succ_le_succ hk), List.take_succ_cons, nodesBytes_cons, List.length_append,
        Node.length_bytes]

lemma encodeNodes_take_drop (ns : List Node) (tail : List UInt8) (k : Nat) :
    encodeNodes ns tail = nodesBytes (ns.take k) ++ encodeNodes (ns.drop k) tail := by
  simp only [encodeNodes, ← List.append_assoc, ← nodesBytes_append, List.take_append_drop]

/-- The buffer `device_path_replace_node` returns for the node `k` steps into a device path: the
nodes before it, the new node when one is given, and an end node. -/
lemma devicePathReplaceNode_encode (ns : List Node) (tail : List UInt8) (k : Nat)
    (hk : k ≤ ns.length) (newNode : Option (Node × List UInt8)) :
    devicePathReplaceNode (encodeNodes ns tail) (nodeOffset k (encodeNodes ns tail))
        (newNode.map fun n => n.1.bytes ++ n.2) =
      nodesBytes (ns.take k ++ (newNode.map Prod.fst).toList) ++ devicePathEndNode := by
  have hpre : (encodeNodes ns tail).take (nodesBytes (ns.take k)).length = nodesBytes (ns.take k) := by
    rw [encodeNodes_take_drop ns tail k, List.take_left]
  rw [nodeOffset_encode ns tail k hk]
  have hend : sizeofDevicePath = devicePathEndNode.length + 0 := rfl
  rcases newNode with _ | ⟨n, rest⟩
  · simp only [devicePathReplaceNode, Option.map_none', hpre, Nat.add_zero,
      writeBytes_replicate_zero rfl]
    rw [writeBytes_append_replicate' rfl hend]
    simp
  · simp only [devicePathReplaceNode, Option.map_some', devicePathNodeLength_bytes,
      take_length_bytes, hpre, writeBytes_replicate_zero (Nat.add_assoc _ _ _)]
    rw [writeBytes_append_replicate' rfl (by rw [Node.length_bytes]),
      writeBytes_append_replicate' (by simp [Node.length_bytes]) hend]
    simp [nodesBytes_append, nodesBytes_cons, nodesBytes]

/-- `device_path_replace_node` at any node of an end-terminated device path that `NextDevicePathNode`
reaches from its start, the end node included, returns an end-terminated device path: the nodes
before that node, then the new node when one is given. In particular the path cut at that node is
one `device_path_startswith` finds at the start of the original. -/
theorem devicePathReplaceNode_nodes (P : DevicePath) (tail : List UInt8) (k : Nat)
    (hk : k ≤ P.nodes.length) (newNode : Option (Node × List UInt8))
    (hnew : ∀ n ∈ newNode, ¬ n.1.IsEnd) :
    (∃ q : DevicePath, devicePathReplaceNode (P.encode tail) (nodeOffset k (P.encode tail))
        (newNode.map fun n => n.1.bytes ++ n.2) = q.encode (le16 sizeofDevicePath) ∧
      q.nodes = P.nodes.take k ++ (newNode.map Prod.fst).toList) ∧
    ∀ fuel, k < fuel → devicePathStartswith fuel (some (P.encode tail))
      (some (devicePathReplaceNode (P.encode tail) (nodeOffset k (P.encode tail)) none)) =
        some true := by
  have hprefix : ∀ m ∈ P.nodes.take k, ¬ m.IsEnd := fun m hm => P.not_end m (List.mem_of_mem_take hm)
  have hq : ∀ m ∈ P.nodes.take k ++ (newNode.map Prod.fst).toList, ¬ m.IsEnd := by
    intro m hm
    rcases List.mem_append.mp hm with h | h
    · exact hprefix m h
    · obtain ⟨n, hn, rfl⟩ : ∃ n ∈ newNode, n.1 = m := by simpa using h
      exact hnew n hn
  have hencode : ∀ o : Option (Node × List UInt8),
      devicePathReplaceNode (P.encode tail) (nodeOffset k (P.encode tail))
        (o.map fun n => n.1.bytes ++ n.2) =
      encodeNodes (P.nodes.take k ++ (o.map Prod.fst).toList) (le16 sizeofDevicePath) := by
    intro o
    rw [DevicePath.encode, devicePathReplaceNode_encode _ _ k hk, encodeNodes, devicePathEndNode,
      List.append_assoc]
  refine ⟨⟨⟨_, hq⟩, hencode newNode, rfl⟩, fun fuel hfuel => ?_⟩
  have hcut := hencode none
  simp only [Option.map_none', Option.toList_none, List.append_nil] at hcut
  obtain ⟨b, hb, hiff⟩ := devicePathStartswithLoop_encode (P.nodes.take k) P.nodes hprefix
    P.not_end (le16 sizeofDevicePath) tail fuel (by simpa [hk] using hfuel)
  rw [hcut, devicePathStartswith, DevicePath.encode, hb, hiff.mpr (List.take_prefix k P.nodes)]

theorem devicePathReplaceNode_nodes_sample :
    1 ≤ sampleDp.nodes.length ∧ (∀ n ∈ some (sampleNode, ([] : List UInt8)), ¬ n.1.IsEnd) ∧
    (∃ q : DevicePath, devicePathReplaceNode (sampleDp.encode []) (nodeOffset 1 (sampleDp.encode []))
        ((some (sampleNode, ([] : List UInt8))).map fun n => n.1.bytes ++ n.2) =
          q.encode (le16 sizeofDevicePath) ∧
      q.nodes = sampleDp.nodes.take 1 ++ ((some (sampleNode, ([] : List UInt8))).map Prod.fst).toList) ∧
    ∀ fuel, 1 < fuel → devicePathStartswith fuel (some (sampleDp.encode []))
      (some (devicePathReplaceNode (sampleDp.encode []) (nodeOffset 1 (sampleDp.encode [])) none)) =
        some true :=
  have hnew : ∀ n ∈ some (sampleNode, ([] : List UInt8)), ¬ n.1.IsEnd := by
    rintro n ⟨⟩
    decide
  ⟨by decide, hnew, devicePathReplaceNode_nodes sampleDp [] 1 (by decide) _ hnew⟩

/-! ## A file path and its device -/

/-- `make_file_device_path`, `device_path_startswith` and `device_path_replace_node` agree: for
every device path and every file name whose node `Length` fits, the path built for the file starts
with the device's path, and replacing the node that many steps in (the file path node) by nothing
gives back exactly the device's path, end node included. -/
theorem makeFileDevicePath_replaceNode (bs : BootServices) (d : DevicePath) (tail : List UInt8)
    (device : Nat) (hdev : bs.handleProtocol device = .ok (d.encode tail)) (file : List UInt16)
    (hnul : 0 ∈ file) (hfit : sizeofDevicePath + strsize16 file < 2 ^ 16) (fuel : Nat)
    (hfuel : d.nodes.length < fuel) :
    ∃ buf, makeFileDevicePath bs fuel device file = some (.ok buf) ∧
      devicePathStartswith fuel (some buf) (some (d.encode tail)) = some true ∧
      devicePathReplaceNode buf (nodeOffset d.nodes.length buf) none =
        d.encode (le16 sizeofDevicePath) := by
  have hd : d.nodes.length ≤ (d.withFile file hfit).nodes.length := by
    simp [DevicePath.withFile]
  refine ⟨_, makeFileDevicePath_encode bs d tail hdev hnul hfit hfuel, ?_, ?_⟩
  · obtain ⟨b, hb, hiff⟩ := devicePathStartswithLoop_encode d.nodes (d.withFile file hfit).nodes
      d.not_end (d.withFile file hfit).not_end tail (le16 sizeofDevicePath) fuel hfuel
    rw [devicePathStartswith, DevicePath.encode, DevicePath.encode, hb,
      hiff.mpr (List.prefix_append _ _)]
  · have hcut := devicePathReplaceNode_encode _ (le16 sizeofDevicePath) _ hd none
    simp only [Option.map_none', Option.toList_none, List.append_nil] at hcut
    rw [DevicePath.encode, hcut]
    simp only [DevicePath.withFile, List.take_left, DevicePath.encode, encodeNodes, List.append_assoc]
    rfl

theorem makeFileDevicePath_replaceNode_sample :
    sampleFirmware.handleProtocol 0 = .ok (sampleStart.encode (le16 sizeofDevicePath)) ∧
    (0 : UInt16) ∈ [0x61, 0] ∧ sizeofDevicePath + strsize16 [0x61, 0] < 2 ^ 16 ∧
    sampleStart.nodes.length < 2 ∧
    ∃ buf, makeFileDevicePath sampleFirmware 2 0 [0x61, 0] = some (.ok buf) ∧
      devicePathStartswith 2 (some buf) (some (sampleStart.encode (le16 sizeofDevicePath))) =
        some true ∧
      devicePathReplaceNode buf (nodeOffset sampleStart.nodes.length buf) none =
        sampleStart.encode (le16 sizeofDevicePath) :=
  ⟨rfl, by decide, by decide, by decide,
    makeFileDevicePath_replaceNode sampleFirmware sampleStart _ 0 rfl [0x61, 0] (by decide) (by decide)
      2 (by decide)⟩

end Stubble.Proofs
