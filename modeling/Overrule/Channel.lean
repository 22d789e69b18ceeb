import Overrule.Text.Basic

namespace Overrule

inductive Channel where
  | out
  | err
  deriving DecidableEq, Repr

def Channel.name : Channel → Text
  | .out => "stdout".toList
  | .err => "stderr".toList

end Overrule
