import RuntimeImage.HostName.Folding.Letters
import RuntimeImage.HostName.Folding.Symbols
import RuntimeImage.HostName.Folding.Presentation
import RuntimeImage.HostName.Folding.Supplement

/-!
What a character counts as in a host name: a letter loses its case, a compatibility form becomes
what it stands for, and what has an accent or another mark is taken apart. Some invisible
characters count as nothing. Each character is folded by itself.
-/

namespace RuntimeImage.HostName.Folding

def table : CharTable := letters ++ symbols ++ presentation ++ supplement

def fold (cs : List Char) : List Char := cs.flatMap table.image

end RuntimeImage.HostName.Folding
