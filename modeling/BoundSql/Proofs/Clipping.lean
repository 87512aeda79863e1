import BoundSql.Monitor.Config
import Mathlib.Data.List.Infix

/-!
# Where a logged text is cut

A text that is too long for the log is cut in its bytes. The cut is searched backwards from the
greatest number of bytes, up to the first byte that no character goes on over; and only there can a
text be cut at all. In UTF-8 just the first byte of a character is no continuation byte, so the
search stops at the end of a whole character, at most three bytes back, and finds what
`Text.clip` keeps (`Text.cut?_eq_some_clip`): the longest part from the start that fits.

## Main definitions

* `Text.lastBoundary`, `Text.slice?`, `Text.cut?` — the search, and the cut in bytes.
* `Text.IsLongestFitting` — the longest part of a text that fits.
-/

namespace BoundSql

namespace Text

/-! ## Cutting bytes -/

/-- The bytes of a text in UTF-8. -/
def bytes (s : List Char) : List UInt8 := s.flatMap String.utf8EncodeChar

/-- A byte `10xxxxxx`, over which a character goes on. -/
def isContinuation (b : UInt8) : Bool := 0x80 ≤ b && b < 0xC0

/-- No character goes on over the byte with this index; the index is that of a byte or of the end.
-/
def isBoundary (bs : List UInt8) (i : Nat) : Bool :=
  i == 0 || i == bs.length || bs[i]?.any (!isContinuation ·)

/-- The last boundary up to an index. -/
def lastBoundary (bs : List UInt8) : Nat → Nat
  | 0 => 0
  | i + 1 => if isBoundary bs (i + 1) then i + 1 else lastBoundary bs i

/-- The text in the bytes before an index. There is none where the index is not a boundary. -/
def slice? (s : List Char) (i : Nat) : Option (List Char) :=
  if isBoundary (bytes s) i then ((bytes s).take i).toByteArray.utf8Decode?.map Array.toList
  else none

/-- A text cut at the last boundary that leaves at most `limit` bytes. -/
def cut? (limit : Nat) (s : List Char) : Option (List Char) :=
  if (bytes s).length ≤ limit then some s else slice? s (lastBoundary (bytes s) limit)

@[simp] theorem bytes_nil : bytes [] = [] := rfl

theorem bytes_cons (c : Char) (s : List Char) :
    bytes (c :: s) = String.utf8EncodeChar c ++ bytes s := rfl

theorem bytes_append (s t : List Char) : bytes (s ++ t) = bytes s ++ bytes t :=
  List.flatMap_append

@[simp] theorem length_bytes (s : List Char) : (bytes s).length = byteCount s := by
  induction s with
  | nil => rfl
  | cons c cs ih =>
    rw [bytes_cons, List.length_append, String.length_utf8EncodeChar, ih, byteCount_cons]

theorem byteCount_append (s t : List Char) : byteCount (s ++ t) = byteCount s + byteCount t := by
  rw [← length_bytes, bytes_append, List.length_append, length_bytes, length_bytes]

theorem utf8ByteSize_eq_byteCount (s : String) : s.utf8ByteSize = byteCount s.toList := by
  rw [← length_bytes, bytes, ← List.size_toByteArray, ← List.utf8Encode, String.utf8Encode_toList]
  rfl

/-! ## Boundaries -/

theorem isContinuation_ofNat {n : Nat} (h : n < 256) :
    isContinuation (.ofNat n) = decide (128 ≤ n ∧ n < 192) := by
  have hn : (UInt8.ofNat n).toNat = n := UInt8.toNat_ofNat_of_lt h
  have hlow : (0x80 : UInt8).toNat = 128 := rfl
  have hhigh : (0xC0 : UInt8).toNat = 192 := rfl
  simp only [isContinuation, UInt8.le_iff_toNat_le, UInt8.lt_iff_toNat_lt, hn, hlow, hhigh,
    Bool.decide_and]

/-- A character goes on over all its bytes but the first. -/
theorem utf8EncodeChar_eq_cons (c : Char) :
    ∃ b bs, String.utf8EncodeChar c = b :: bs ∧ isContinuation b = false ∧
      bs.all isContinuation = true := by
  -- The remainder of a division by 64 follows the two bits `10`.
  have hrest (n : Nat) : isContinuation (.ofNat (n % 64 + 128)) = true := by
    rw [isContinuation_ofNat (by omega), decide_eq_true_eq]
    omega
  have hfirst {n : Nat} (hn : n < 256) (h : n < 128 ∨ 192 ≤ n) :
      isContinuation (.ofNat n) = false := by
    rw [isContinuation_ofNat hn, decide_eq_false_iff_not]
    omega
  rw [String.utf8EncodeChar]
  split_ifs with h1 h2 h3
  · exact ⟨_, _, rfl, hfirst (by omega) (by omega), by simp⟩
  · exact ⟨_, _, rfl, hfirst (by omega) (by omega), by simp only [List.all_cons, hrest]; rfl⟩
  · exact ⟨_, _, rfl, hfirst (by omega) (by omega), by simp only [List.all_cons, hrest]; rfl⟩
  · exact ⟨_, _, rfl, hfirst (by omega) (by omega), by simp only [List.all_cons, hrest]; rfl⟩

/-- A character starts or the text ends behind a part of it. -/
theorem isBoundary_byteCount (s rest : List Char) :
    isBoundary (bytes (s ++ rest)) (byteCount s) = true := by
  cases rest with
  | nil => simp [isBoundary]
  | cons c cs =>
    obtain ⟨b, bs, hc, hb, -⟩ := utf8EncodeChar_eq_cons c
    have hget : (bytes (s ++ c :: cs))[byteCount s]? = some b := by
      rw [bytes_append, List.getElem?_append_right (by simp), length_bytes, Nat.sub_self,
        bytes_cons, hc]
      rfl
    rw [isBoundary, hget]
    simp [hb]

/-- There is no boundary inside a character. -/
theorem isBoundary_eq_false (s rest : List Char) {c : Char} {i : Nat} (hs : byteCount s < i)
    (hc : i < byteCount s + c.utf8Size) : isBoundary (bytes (s ++ c :: rest)) i = false := by
  obtain ⟨b, bs, hencode, -, hbs⟩ := utf8EncodeChar_eq_cons c
  have hsize : bs.length + 1 = c.utf8Size := by
    rw [← String.length_utf8EncodeChar, hencode, List.length_cons]
  obtain ⟨k, rfl⟩ : ∃ k, i = byteCount s + (k + 1) := ⟨i - byteCount s - 1, by omega⟩
  have hk : k < bs.length := by omega
  have hget : (bytes (s ++ c :: rest))[byteCount s + (k + 1)]? = some bs[k] := by
    rw [bytes_append, List.getElem?_append_right (by simp), length_bytes, Nat.add_sub_cancel_left,
      bytes_cons, hencode, List.cons_append, List.getElem?_cons_succ,
      List.getElem?_append_left hk, List.getElem?_eq_getElem hk]
  have hend : byteCount s + (k + 1) ≠ (bytes (s ++ c :: rest)).length := by
    rw [length_bytes, byteCount_append, byteCount_cons]
    omega
  have hlast : isContinuation bs[k] = true := List.all_eq_true.mp hbs _ (List.getElem_mem hk)
  rw [isBoundary, hget, beq_false_of_ne hend]
  simp [hlast]

theorem lastBoundary_eq {bs : List UInt8} {k i : Nat} (hle : k ≤ i) (hk : isBoundary bs k = true)
    (hnone : ∀ j, k < j → j ≤ i → isBoundary bs j = false) : lastBoundary bs i = k := by
  induction i with
  | zero =>
    rw [lastBoundary]
    omega
  | succ i ih =>
    rw [lastBoundary]
    by_cases h : k = i + 1
    · rw [if_pos (h ▸ hk), h]
    · rw [hnone (i + 1) (by omega) le_rfl, if_neg Bool.false_ne_true]
      exact ih (by omega) fun j hj hji => hnone j hj (by omega)

/-! ## What fits -/

/-- What is kept of a text that is too long is followed by a character that does not fit. -/
theorem exists_eq_clip_append {limit : Nat} {s : List Char} (h : limit < byteCount s) :
    ∃ c rest, s = clip limit s ++ c :: rest ∧ limit < byteCount (clip limit s) + c.utf8Size := by
  induction s generalizing limit with
  | nil => simp at h
  | cons c cs ih =>
    rw [byteCount_cons] at h
    rw [clip]
    split
    · next hc =>
      obtain ⟨d, rest, hrest, hd⟩ := @ih (limit - c.utf8Size) (by omega)
      refine ⟨d, rest, by rw [List.cons_append, ← hrest], ?_⟩
      rw [byteCount_cons]
      omega
    · next hc =>
      refine ⟨c, cs, rfl, ?_⟩
      rw [byteCount_nil]
      omega

theorem clip_prefix (limit : Nat) (s : List Char) : clip limit s <+: s := by
  induction s generalizing limit with
  | nil => exact List.nil_prefix
  | cons c cs ih =>
    rw [clip]
    split
    · exact List.cons_prefix_cons.mpr ⟨rfl, ih _⟩
    · exact List.nil_prefix

/-- A part from the start that fits is kept. -/
theorem prefix_clip {limit : Nat} {p s : List Char} (hp : p <+: s) (hfits : byteCount p ≤ limit) :
    p <+: clip limit s := by
  induction s generalizing limit p with
  | nil => rwa [clip]
  | cons c cs ih =>
    cases p with
    | nil => exact List.nil_prefix
    | cons d ds =>
      obtain ⟨rfl, hds⟩ := List.cons_prefix_cons.mp hp
      rw [byteCount_cons] at hfits
      rw [clip, if_pos (by omega)]
      exact List.cons_prefix_cons.mpr ⟨rfl, ih hds (by omega)⟩

/-- The bytes before the end of a character are those of a text. -/
theorem slice?_byteCount (s rest : List Char) : slice? (s ++ rest) (byteCount s) = some s := by
  have htake : (bytes (s ++ rest)).take (byteCount s) = bytes s := by
    rw [bytes_append, ← length_bytes, List.take_left]
  rw [slice?, if_pos (isBoundary_byteCount s rest), htake]
  change s.utf8Encode.utf8Decode?.map Array.toList = some s
  rw [List.utf8Decode?_utf8Encode]
  rfl

/-- Cutting in the bytes always succeeds and keeps the characters that fit. -/
theorem cut?_eq_some_clip (limit : Nat) (s : List Char) : cut? limit s = some (clip limit s) := by
  rw [cut?, length_bytes]
  split
  · next h => rw [clip_eq_self h]
  · next h =>
    obtain ⟨c, rest, hs, hc⟩ := exists_eq_clip_append (Nat.lt_of_not_le h)
    have hfits := byteCount_clip_le limit s
    generalize clip limit s = kept at hs hc hfits
    subst hs
    have hlast : lastBoundary (bytes (kept ++ c :: rest)) limit = byteCount kept :=
      lastBoundary_eq hfits (isBoundary_byteCount kept _) fun j hj hjl =>
        isBoundary_eq_false kept rest hj (by omega)
    rw [hlast, slice?_byteCount]

/-- The longest part of a text from its start that takes at most `limit` bytes. -/
structure IsLongestFitting (limit : Nat) (s kept : List Char) : Prop where
  isStart : kept <+: s
  fits : byteCount kept ≤ limit
  longest : ∀ p, p <+: s → byteCount p ≤ limit → p <+: kept

theorem isLongestFitting_clip (limit : Nat) (s : List Char) :
    IsLongestFitting limit s (clip limit s) where
  isStart := clip_prefix limit s
  fits := byteCount_clip_le limit s
  longest _ := prefix_clip

end Text

namespace MonitorConfig

open Text (byteCount clip cut? cut?_eq_some_clip IsLongestFitting)

/-- A logged text is the text itself if no greatest number of bytes is set or it takes at most as
many. Otherwise it is its longest part from the start that takes at most as many bytes, and three
dots.

The cut in the bytes succeeds and gives this part, which is not the whole text and falls short of
the number by at most three bytes. With a greater number it does not get shorter. -/
theorem loggedSql_keeps_what_fits (c : MonitorConfig) (sql : String) :
    ((∀ limit ∈ c.maxSqlLength, sql.utf8ByteSize ≤ limit) → c.loggedSql sql = sql) ∧
      ∀ limit ∈ c.maxSqlLength, limit < sql.utf8ByteSize →
        ∃ kept : String, c.loggedSql sql = kept ++ "..." ∧
          cut? limit sql.toList = some kept.toList ∧
          IsLongestFitting limit sql.toList kept.toList ∧
          kept ≠ sql ∧ limit < kept.utf8ByteSize + 4 ∧
          ∀ limit' ≥ limit, ∃ more, cut? limit' sql.toList = some more ∧ kept.toList <+: more := by
  constructor
  · intro h
    rw [loggedSql]
    cases hlimit : c.maxSqlLength with
    | none => rfl
    | some limit => exact if_pos (h limit hlimit)
  · intro limit hlimit hlong
    rw [Option.mem_def] at hlimit
    have hkept := Text.isLongestFitting_clip limit sql.toList
    refine ⟨String.ofList (clip limit sql.toList), ?_, ?_, ?_, ?_, ?_, ?_⟩
    · rw [loggedSql, hlimit]
      exact if_neg (Nat.not_le_of_lt hlong)
    · rw [cut?_eq_some_clip, String.toList_ofList]
    · rwa [String.toList_ofList]
    · intro heq
      have hfits := hkept.fits
      rw [← String.toList_inj, String.toList_ofList] at heq
      rw [heq, ← Text.utf8ByteSize_eq_byteCount] at hfits
      omega
    · rw [Text.utf8ByteSize_eq_byteCount] at hlong ⊢
      obtain ⟨next, rest, -, hnext⟩ := Text.exists_eq_clip_append hlong
      have hsize := next.utf8Size_le_four
      rw [String.toList_ofList]
      omega
    · intro limit' hle
      refine ⟨_, cut?_eq_some_clip limit' _, ?_⟩
      rw [String.toList_ofList]
      exact Text.prefix_clip hkept.isStart (hkept.fits.trans hle)

/-- Characters of one, two, three and four bytes, of which the last has one byte too many. -/
theorem loggedSql_keeps_three_of_four :
    let c : MonitorConfig := { maxSqlLength := some 9 }
    9 ∈ c.maxSqlLength ∧ 9 < "aé€😀".utf8ByteSize ∧ cut? 9 "aé€😀".toList = some "aé€".toList ∧
      c.loggedSql "aé€😀" = "aé€..." := by
  intro c
  have hlong : 9 < "aé€😀".utf8ByteSize := by decide
  obtain ⟨kept, hlogged, hcut, -⟩ := (loggedSql_keeps_what_fits c "aé€😀").2 9 rfl hlong
  have hclip : clip 9 "aé€😀".toList = "aé€".toList := by decide
  have hkept : kept = "aé€" := by
    rw [cut?_eq_some_clip, hclip, Option.some_inj] at hcut
    exact String.toList_injective hcut.symm
  subst hkept
  exact ⟨rfl, hlong, hcut, hlogged⟩

end MonitorConfig

end BoundSql
