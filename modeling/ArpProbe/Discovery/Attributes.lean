import ArpProbe.Discovery.Survey
import ArpProbe.HardwareAddress
import ArpProbe.Kernel.Files
import ArpProbe.Text.Basic

/-! Finding the interface in the tree of attribute files: a directory for each interface, a file
for each attribute, its value the first word in it. -/

namespace ArpProbe

namespace AttributeDirectory

def attribute? (d : AttributeDirectory) (file : String) : Option String := do
  let (_, content) ← d.attributes.find? (·.1 = file)
  let text ← utf8Text? content
  (Text.firstWord? text.toList).map String.ofList

def interface? (d : AttributeDirectory) (name : String) : Option Interface := do
  let index ← d.attribute? "ifindex" >>= Numeral.decimal64?
  let flags ← d.attribute? "flags" >>= Numeral.hexadecimal64?
  let length ← d.attribute? "addr_len" >>= Numeral.decimal64?
  let broadcast ← d.attribute? "broadcast" >>= (HardwareAddress.ofText? · length)
  if index < Numeral.bound 31 ∧ flags < Numeral.bound 32 then
    some ⟨name, Int32.ofNat index, length, some broadcast, UInt32.ofNat flags⟩
  else none

end AttributeDirectory

namespace Attributes

def examine (hint : Option String) (dad : Bool) (d : AttributeDirectory) : Sys Finding :=
  match utf8Text? d.name with
  | none => pure .skip
  | some name =>
    if ¬ Finding.isWanted hint name then pure .skip
    else match d.interface? name with
      | none => pure .skip
      | some i =>
        Finding.ofFlags hint i.flags dad do
          return if i.addressLength = 0 then .skip else .candidate i

def resolve (hint : Option String) (dad : Bool) : Sys Outcome := do
  match (← get).directories with
  | none => return .notApplicable (attributeRoot ++ ": " ++ Errno.noEntry.text)
  | some directories => survey (examine hint dad) directories []

end Attributes

end ArpProbe
