import LineLexer.Proofs.ArgumentNames
import LineLexer.Proofs.Delivery

set_option autoImplicit false

namespace LineLexer

namespace CommandLine

namespace Config

end Config

namespace Arguments

variable (arguments : Arguments) (tree : FileTree) (stdin : Bytes)

def Reads (content : Bytes) : Prop :=
  match arguments.inputPath with
  | none => content = stdin
  | some path => tree.read path = .ok content

variable {arguments tree stdin}

section

variable (nulFree : ∀ path ∈ arguments.inputPath, path.hasNul = false) (config : Config)

include nulFree

end

end Arguments

namespace Arguments

variable {arguments : Arguments} {tree : FileTree} {stdin : Bytes}

end Arguments

end CommandLine
end LineLexer
