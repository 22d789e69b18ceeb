import Overrule.Text.CodeRanges

namespace Overrule

def blanks : CodeRanges :=
  [(0x0009, 0x000D), (0x0020, 0x0020), (0x0085, 0x0085), (0x00A0, 0x00A0), (0x1680, 0x1680),
   (0x2000, 0x200A), (0x2028, 0x2029), (0x202F, 0x202F), (0x205F, 0x205F), (0x3000, 0x3000)]

def isBlank (c : Char) : Bool := blanks.has c

def Text.trimStart (text : Text) : Text := text.dropWhile isBlank

def Text.trim (text : Text) : Text := (text.trimStart.reverse.dropWhile isBlank).reverse

end Overrule
