import Overrule.Text.Escape

namespace Overrule

inductive Paint where
  | green
  | red
  | bold
  deriving DecidableEq, Repr

namespace Paint

def code : Paint → Text
  | .green => colourCode ['3', '2']
  | .red => colourCode ['3', '1']
  | .bold => colourCode ['1']

def reopen (code text : Text) : Text :=
  (Escape.pieces text).flatMap fun piece =>
    if piece = .code ['0'] then piece.text ++ code else piece.text

def apply (paint : Paint) (colour : Bool) (text : Text) : Text :=
  if colour then paint.code ++ reopen paint.code text ++ resetCode else text

end Paint
end Overrule
