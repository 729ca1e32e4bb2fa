/-!
# Blanks and tokens

An option text is a row of tokens with blanks between them.  A blank is a character with the
Unicode property White_Space, and a token is a longest run of characters that are none.  The
central statements say that blanks around and between tokens do not count: a text splits where a
blank stands.
-/

namespace Safepoint.Options

/-- The characters with the property White_Space, as ranges of code points. -/
def blankRanges : List (Nat × Nat) :=
  [(0x09, 0x0d), (0x20, 0x20), (0x85, 0x85), (0xa0, 0xa0), (0x1680, 0x1680), (0x2000, 0x200a),
    (0x2028, 0x2029), (0x202f, 0x202f), (0x205f, 0x205f), (0x3000, 0x3000)]

/-- Whether a character separates tokens. -/
def isBlank (char : Char) : Bool :=
  blankRanges.any fun range => decide (range.1 ≤ char.toNat) && decide (char.toNat ≤ range.2)

/-- The tokens of a text, in order. -/
def tokens : List Char → List (List Char)
  | [] => []
  | char :: rest =>
      if isBlank char then tokens rest
      else
        match rest with
        | [] => [[char]]
        | next :: _ =>
            if isBlank next then [char] :: tokens rest
            else
              match tokens rest with
              | [] => [[char]]
              | token :: others => (char :: token) :: others

/-- The parts of a token before and after its first `mark`, if it has one. -/
def splitAt? (mark : Char) : List Char → Option (List Char × List Char)
  | [] => none
  | char :: rest =>
      if char = mark then some ([], rest)
      else (splitAt? mark rest).map fun parts => (char :: parts.1, parts.2)

@[simp]
theorem tokens_nil : tokens [] = [] := rfl

theorem tokens_cons_blank {char : Char} (blank : isBlank char = true) (rest : List Char) :
    tokens (char :: rest) = tokens rest := by
  simp [tokens, blank]

theorem tokens_cons_cons (char next : Char) (rest : List Char) :
    tokens (char :: next :: rest) =
      if isBlank char then tokens (next :: rest)
      else if isBlank next then [char] :: tokens (next :: rest)
      else
        match tokens (next :: rest) with
        | [] => [[char]]
        | token :: others => (char :: token) :: others := by
  rw [tokens.eq_def]

theorem tokens_ne_nil {char : Char} (solid : isBlank char = false) (rest : List Char) :
    tokens (char :: rest) ≠ [] := by
  cases rest with
  | nil => simp [tokens, solid]
  | cons next rest =>
      rw [tokens_cons_cons]
      simp only [solid, Bool.false_eq_true, if_false]
      split
      · simp
      · split <;> simp

theorem tokens_append_blank (front : List Char) {char : Char} (blank : isBlank char = true)
    (rest : List Char) : tokens (front ++ char :: rest) = tokens front ++ tokens rest := by
  induction front with
  | nil => simp [tokens_cons_blank blank]
  | cons head tail ih =>
      by_cases head_blank : isBlank head = true
      · simp [tokens_cons_blank head_blank, ih]
      · cases tail with
        | nil => simp [tokens_cons_cons, tokens, head_blank, blank]
        | cons next tail =>
            simp only [List.cons_append] at ih ⊢
            rw [tokens_cons_cons, tokens_cons_cons, ih]
            simp only [head_blank, Bool.false_eq_true, if_false]
            by_cases next_blank : isBlank next = true
            · simp [next_blank]
            · simp only [next_blank, Bool.false_eq_true, if_false]
              cases found : tokens (next :: tail) with
              | nil => exact absurd found (tokens_ne_nil (by simpa using next_blank) tail)
              | cons token others => rfl

end Safepoint.Options
