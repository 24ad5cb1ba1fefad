/-
# Powers of natural numbers

A power of natural numbers is core's, the one that evaluates, also where algebra is imported and
would offer another: so a limit such as 2⁶⁴ is one and the same term in the programs and in what
is proved about them.
-/

namespace EvaluationBrowser

@[default_instance 20000]
instance (priority := 20000) natPow : Pow Nat Nat := instPowNat

end EvaluationBrowser
