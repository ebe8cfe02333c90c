import Stubble.Basic

/-!
# Device paths

`device-path-util.c` of the EFI stub: a file device path for a device, the fallback conversion of a
file-path-only device path to text, the prefix test and node replacement. A device path is the
memory from its first node on; the loops that walk it take a `fuel` bound, and run out of it only on
paths that are not end-terminated. The firmware's boot services are parameters.
-/

namespace Stubble

/-- An `EFI_STATUS`. -/
abbrev EfiStatus := Nat

/-- `EFI_INVALID_PARAMETER`, `EFIERR(2)`. -/
def efiInvalidParameter : EfiStatus := 2 ^ 63 + 2

/-- `EFI_OUT_OF_RESOURCES`, `EFIERR(9)`. -/
def efiOutOfResources : EfiStatus := 2 ^ 63 + 9

/-- `END_DEVICE_PATH_TYPE` of the UEFI specification (`proto/device-path.h` is absent from src/). -/
def endDevicePathType : UInt8 := 0x7f

/-- `END_ENTIRE_DEVICE_PATH_SUBTYPE`. -/
def endEntireDevicePathSubtype : UInt8 := 0xff

/-- `MEDIA_DEVICE_PATH`. -/
def mediaDevicePath : UInt8 := 0x04

/-- `MEDIA_FILEPATH_DP`. -/
def mediaFilepathDp : UInt8 := 0x04

/-- `sizeof(EFI_DEVICE_PATH)`: `Type`, `SubType` and the 16-bit `Length`. It is also
`sizeof(FILEPATH_DEVICE_PATH)` and `offsetof(FILEPATH_DEVICE_PATH, PathName)`. -/
def sizeofDevicePath : Nat := 4

/-- `DevicePathType`. -/
def devicePathType (dp : List UInt8) : UInt8 := dp.getD 0 0

/-- `DevicePathSubType`. -/
def devicePathSubType (dp : List UInt8) : UInt8 := dp.getD 1 0

/-- `DevicePathNodeLength`: the little-endian `Length` of the node. -/
def devicePathNodeLength (dp : List UInt8) : Nat := fieldLE dp 2 2

/-- `IsDevicePathEnd`: an end-entire node. -/
def isDevicePathEnd (dp : List UInt8) : Bool :=
  devicePathType dp == endDevicePathType && devicePathSubType dp == endEntireDevicePathSubtype

/-- `NextDevicePathNode`: `Length` bytes further on. -/
def nextDevicePathNode (dp : List UInt8) : List UInt8 := dp.drop (devicePathNodeLength dp)

/-- The bytes of a 16-bit field stored little-endian: the value modulo `2 ^ 16`. -/
def le16 (n : Nat) : List UInt8 := [n.toUInt8, (n / 256).toUInt8]

/-- The node `SetDevicePathEndNode` writes. -/
def devicePathEndNode : List UInt8 :=
  [endDevicePathType, endEntireDevicePathSubtype] ++ le16 sizeofDevicePath

/-- `memcpy` of `bytes` to offset `off` of a buffer. -/
def writeBytes (buf : List UInt8) (off : Nat) (bytes : List UInt8) : List UInt8 :=
  buf.take off ++ bytes ++ buf.drop (off + bytes.length)

/-- The bytes of a `char16_t` array in memory. -/
def char16Bytes (s : List UInt16) : List UInt8 :=
  s.flatMap fun c => [c.toNat.toUInt8, (c.toNat / 256).toUInt8]

/-- `strlen16`: the characters before the first NUL. -/
def strlen16 (s : List UInt16) : Nat := (s.takeWhile (· != 0)).length

/-- `strsize16`: the bytes of the string and its NUL. -/
def strsize16 (s : List UInt16) : Nat := (strlen16 s + 1) * 2

/-- `device_path_startswith` from the loop on: `none` when `fuel` iterations do not finish it. -/
def devicePathStartswithLoop : Nat → List UInt8 → List UInt8 → Option Bool
  | 0, _, _ => none
  | fuel + 1, dp, start =>
    if isDevicePathEnd start then some true
    else if isDevicePathEnd dp then some false
    else
      let l1 := devicePathNodeLength start
      let l2 := devicePathNodeLength dp
      if l1 ≠ l2 then some false
      else if memcmp dp start l1 ≠ .eq then some false
      else devicePathStartswithLoop fuel (nextDevicePathNode dp) (nextDevicePathNode start)

/-- `device_path_startswith`, NULL pointers as `none`. -/
def devicePathStartswith (fuel : Nat) (dp start : Option (List UInt8)) : Option Bool :=
  match start, dp with
  | none, _ => some true
  | some _, none => some false
  | some start, some dp => devicePathStartswithLoop fuel dp start

/-- The offset of the end node, as `while (!IsDevicePathEnd(end_node)) end_node =
NextDevicePathNode(end_node)` finds it. -/
def endNodeOffset : Nat → List UInt8 → Option Nat
  | 0, _ => none
  | fuel + 1, dp =>
    if isDevicePathEnd dp then some 0
    else (devicePathNodeLength dp + ·) <$> endNodeOffset fuel (nextDevicePathNode dp)

/-- What `make_file_device_path` and `device_path_to_str` ask the firmware: the device path
protocol of a handle, and the device-path-to-text protocol's conversion. -/
structure BootServices where
  handleProtocol : Nat → Except EfiStatus (List UInt8)
  locateDevicePathToText : Except EfiStatus (List UInt8 → Option (List UInt8))

variable (bs : BootServices)

/-- `make_file_device_path`: a copy of the device's path up to its end node, then a file path node
holding `file` with its NUL, then an end node where the new node's `Length` says. The bytes
`xmalloc` returns are unspecified; the model starts from zeros. -/
def makeFileDevicePath (fuel : Nat) (device : Nat) (file : List UInt16) :
    Option (Except EfiStatus (List UInt8)) :=
  match bs.handleProtocol device with
  | .error err => some (.error err)
  | .ok dp =>
    (endNodeOffset fuel dp).map fun dpSize =>
      let fileSize := strsize16 file
      let buf := List.replicate (dpSize + fileSize + sizeofDevicePath + sizeofDevicePath) 0
      let buf := writeBytes buf 0 (dp.take dpSize)
      let buf := writeBytes buf dpSize
        ([mediaDevicePath, mediaFilepathDp] ++ le16 (sizeofDevicePath + fileSize))
      let buf := writeBytes buf (dpSize + sizeofDevicePath) ((char16Bytes file).take fileSize)
      .ok (writeBytes buf (dpSize + devicePathNodeLength (buf.drop dpSize)) devicePathEndNode)

/-- The loop of `device_path_to_str` without the to-text protocol: `str` holds `size` bytes, the
path names so far, each earlier one's last character replaced by a backslash. -/
def devicePathToStrFallback (err : EfiStatus) :
    Nat → List UInt8 → Nat → Option (List UInt8) → Option (Except EfiStatus (Option (List UInt8)))
  | 0, _, _, _ => none
  | fuel + 1, node, size, str =>
    if isDevicePathEnd node then some (.ok str)
    else if devicePathType node ≠ mediaDevicePath ∨ devicePathSubType node ≠ mediaFilepathDp then
      some (.error err)
    else
      let pathSize := devicePathNodeLength node
      if pathSize ≤ sizeofDevicePath ∨ pathSize % 2 ≠ 0 then some (.error efiInvalidParameter)
      else
        let pathSize := pathSize - sizeofDevicePath
        let fresh := List.replicate (size + pathSize) 0
        let fresh := match str with
          | some old => writeBytes (writeBytes fresh 0 (old.take size)) (2 * (size / 2 - 1)) [0x5c, 0]
          | none => fresh
        let fresh := writeBytes fresh (2 * (size / 2)) ((node.drop sizeofDevicePath).take pathSize)
        devicePathToStrFallback err fuel (nextDevicePathNode node) (size + pathSize) (some fresh)

/-- `device_path_to_str`: the firmware's text when it has the protocol, else the fallback. -/
def devicePathToStr (fuel : Nat) (dp : List UInt8) : Option (Except EfiStatus (Option (List UInt8))) :=
  match bs.locateDevicePathToText with
  | .error err => devicePathToStrFallback err fuel dp 0 none
  | .ok convert =>
    some (match convert dp with
      | none => .error efiOutOfResources
      | some str => .ok (some str))

/-- `device_path_replace_node`: `path` up to the node at offset `len`, then `new_node` if given,
then an end node. -/
def devicePathReplaceNode (path : List UInt8) (len : Nat) (newNode : Option (List UInt8)) :
    List UInt8 :=
  let newNodeLen := match newNode with
    | some n => devicePathNodeLength n
    | none => 0
  let ret := List.replicate (len + newNodeLen + sizeofDevicePath) 0
  let ret := writeBytes ret 0 (path.take len)
  let ret := match newNode with
    | some n => writeBytes ret len (n.take newNodeLen)
    | none => ret
  writeBytes ret (len + newNodeLen) devicePathEndNode

end Stubble
