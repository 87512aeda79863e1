/-!
# Cutting a text to a number of bytes

`clip n` keeps as many whole characters as fit into `n` bytes of UTF-8, so a cut never falls
inside a character. `clipped` marks a cut with three dots after the part that was kept.
-/

namespace BoundSql.Text

/-- The bytes that a sequence of characters takes in UTF-8. -/
def byteCount : List Char → Nat
  | [] => 0
  | c :: s => c.utf8Size + byteCount s

@[simp] theorem byteCount_nil : byteCount [] = 0 := rfl

@[simp] theorem byteCount_cons (c : Char) (s : List Char) :
    byteCount (c :: s) = c.utf8Size + byteCount s := rfl

/-- The longest part from the start whose characters together take at most `limit` bytes. -/
def clip : Nat → List Char → List Char
  | _, [] => []
  | limit, c :: cs =>
    if c.utf8Size ≤ limit then c :: clip (limit - c.utf8Size) cs else []

theorem byteCount_clip_le (limit : Nat) (s : List Char) : byteCount (clip limit s) ≤ limit := by
  induction s generalizing limit with
  | nil => simp [clip]
  | cons c cs ih =>
    rw [clip]
    split
    · have := ih (limit - c.utf8Size)
      simp only [byteCount_cons]
      omega
    · simp

theorem clip_eq_self {limit : Nat} {s : List Char} (h : byteCount s ≤ limit) :
    clip limit s = s := by
  induction s generalizing limit with
  | nil => rfl
  | cons c cs ih =>
    simp only [byteCount_cons] at h
    rw [clip, if_pos (by omega), ih (by omega)]

/-- A text of at most `limit` bytes is kept; of a longer one, what fits and three dots. Without
a limit every text is kept. -/
def clipped (limit : Option Nat) (s : String) : String :=
  match limit with
  | none => s
  | some n => if s.utf8ByteSize ≤ n then s else String.ofList (clip n s.toList) ++ "..."

@[simp] theorem clipped_none (s : String) : clipped none s = s := rfl

end BoundSql.Text
