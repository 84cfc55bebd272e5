import ArpProbe.CommandLine.Options

/-! The options of the program and the text that explains them. -/

namespace ArpProbe.CommandLine

def rules : List OptionRule := [
  ⟨'f', none, ["quit on first reply"]⟩,
  ⟨'q', none, ["be quiet"]⟩,
  ⟨'b', none, ["keep on broadcasting, do not unicast"]⟩,
  ⟨'D', none, ["duplicate address detection mode"]⟩,
  ⟨'U', none, ["unsolicited ARP mode, update your neighbours"]⟩,
  ⟨'A', none, ["ARP answer mode, update your neighbours"]⟩,
  ⟨'V', none, ["print version and exit"]⟩,
  ⟨'h', none, ["display help information"]⟩,
  ⟨'c', some "COUNT", ["how many packets to send"]⟩,
  ⟨'w', some "TIMEOUT", ["how long to wait for a reply"]⟩,
  ⟨'i', some "INTERVAL", ["set interval between packets (default: 1 second)"]⟩,
  ⟨'I', some "DEVICE", ["which ethernet device to use"]⟩,
  ⟨'s', some "SOURCE", ["source ip address"]⟩,
  ⟨'d', some "LEVEL", ["debugging level:", "0(none), 1(low), 2(medium), 3(high), 5(extensive)"]⟩,
  ⟨'C', some "FILE", ["path to configuration file"]⟩]

def helpColumn : Nat := 24

def indented (text : String) : String :=
  String.ofList (text.toList.rightpad helpColumn ' ')

def OptionRule.lines (r : OptionRule) : List String :=
  let shown := "    -" ++ r.letter.toString ++ ((r.placeholder.map (" " ++ ·)).getD "")
  r.help.zipIdx.map fun (line, n) => indented (if n = 0 then shown else "") ++ line ++ "\n"

def usage (program : String) : String :=
  s!"Usage: {program} [options] <destination>\n\nOptions:\n" ++
    String.join (rules.flatMap OptionRule.lines)

end ArpProbe.CommandLine
