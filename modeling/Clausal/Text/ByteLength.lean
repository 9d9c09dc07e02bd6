/-!
# Cutting by encoded length

Lengths are counted in bytes of UTF-8. A cut never splits a character: `takeBytes n` is the longest
run of leading characters that fits into `n` bytes.
-/

namespace Clausal.Text

def byteLength : List Char → Nat
  | [] => 0
  | c :: cs => c.utf8Size + byteLength cs

def takeBytes : Nat → List Char → List Char
  | _, [] => []
  | n, c :: cs => if c.utf8Size ≤ n then c :: takeBytes (n - c.utf8Size) cs else []

theorem byteLength_takeBytes_le (n : Nat) (cs : List Char) : byteLength (takeBytes n cs) ≤ n := by
  induction cs generalizing n with
  | nil => simp [takeBytes, byteLength]
  | cons c cs ih =>
    by_cases h : c.utf8Size ≤ n
    · have := ih (n - c.utf8Size)
      simp only [takeBytes, h, if_true, byteLength]
      omega
    · simp [takeBytes, h, byteLength]

/-- Keeps a text of at most `limit` bytes; a longer one is cut and marked with `...`. -/
def shorten (limit : Option Nat) (s : String) : String :=
  match limit with
  | none => s
  | some n =>
    if byteLength s.toList ≤ n then s else String.ofList (takeBytes n s.toList) ++ "..."

end Clausal.Text
