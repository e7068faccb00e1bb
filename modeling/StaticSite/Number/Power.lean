/-!
# Powers

Powers of the two bases of number formats.
-/

namespace StaticSite.Number

def twoTo (n : Nat) : Nat := Nat.pow 2 n

def tenTo (n : Nat) : Nat := Nat.pow 10 n

end StaticSite.Number
