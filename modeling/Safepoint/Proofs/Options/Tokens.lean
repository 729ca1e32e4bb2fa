import Safepoint.Options.Blank

/-!
# A text as a row of tokens

What the tokens of a text are can be said without reading it: blanks and solid pieces alternate, and
the solid pieces are the tokens.  `tokens_eq_iff` states that every text is such a row in exactly one
way, which is how it is read.  A token is cut at its first mark likewise.
-/

namespace Safepoint.Options

/-- All characters are blank. -/
def AllBlank (text : List Char) : Prop := ∀ char ∈ text, isBlank char = true

/-- There are characters, and none of them is blank. -/
def Solid (token : List Char) : Prop := token ≠ [] ∧ ∀ char ∈ token, isBlank char = false

/-- The text is over, or goes on with a blank. -/
def Parted (rest : List Char) : Prop := ∀ char ∈ rest.head?, isBlank char = true

/-- The text consists of these tokens with blanks around and between them. -/
inductive Row : List Char → List (List Char) → Prop where
  | blank {text : List Char} (text_blank : AllBlank text) : Row text []
  | token {lead token rest : List Char} {others : List (List Char)} (lead_blank : AllBlank lead)
      (solid : Solid token) (parted : Parted rest) (row : Row rest others) :
      Row (lead ++ token ++ rest) (token :: others)

variable {char next mark : Char} {lead token rest text front : List Char}
variable {found others : List (List Char)}

theorem tokens_append_of_allBlank (lead_blank : AllBlank lead) (rest : List Char) :
    tokens (lead ++ rest) = tokens rest := by
  induction lead with
  | nil => rfl
  | cons char lead ih =>
      obtain ⟨char_blank, tail_blank⟩ := List.forall_mem_cons.mp lead_blank
      rw [List.cons_append, tokens_cons_blank char_blank, ih tail_blank]

theorem tokens_append_of_solid (solid : Solid token) (parted : Parted rest) :
    tokens (token ++ rest) = token :: tokens rest := by
  obtain ⟨token_ne, token_solid⟩ := solid
  induction token with
  | nil => exact absurd rfl token_ne
  | cons char tail ih =>
      obtain ⟨char_solid, tail_solid⟩ := List.forall_mem_cons.mp token_solid
      cases tail with
      | nil =>
          cases rest with
          | nil => simp [tokens, char_solid]
          | cons next rest =>
              have next_blank : isBlank next = true := parted next rfl
              simp [tokens_cons_cons, char_solid, next_blank]
      | cons next tail =>
          have next_solid := tail_solid next List.mem_cons_self
          have rest_eq := ih (List.cons_ne_nil next tail) tail_solid
          simp only [List.cons_append] at rest_eq ⊢
          simp [tokens_cons_cons, char_solid, next_solid, rest_eq]

theorem Row.tokens_eq (row : Row text found) : tokens text = found := by
  induction row with
  | @blank text text_blank =>
      rw [← text.append_nil, tokens_append_of_allBlank text_blank, tokens_nil]
  | @token lead token rest others lead_blank solid parted row ih =>
      rw [List.append_assoc, tokens_append_of_allBlank lead_blank,
        tokens_append_of_solid solid parted, ih]

theorem Row.cons_blank (char_blank : isBlank char = true) (row : Row text found) :
    Row (char :: text) found := by
  cases row with
  | blank text_blank => exact .blank (List.forall_mem_cons.mpr ⟨char_blank, text_blank⟩)
  | token lead_blank solid parted row =>
      rw [← List.cons_append, ← List.cons_append]
      exact .token (List.forall_mem_cons.mpr ⟨char_blank, lead_blank⟩) solid parted row

theorem Row.cons_parted (char_solid : isBlank char = false) (parted : Parted text)
    (row : Row text found) : Row (char :: text) ([char] :: found) := by
  have solid : Solid [char] :=
    ⟨List.cons_ne_nil char [], List.forall_mem_singleton.mpr char_solid⟩
  change Row ([] ++ [char] ++ text) _
  exact .token (List.forall_mem_nil _) solid parted row

/-- A solid character in front of a solid one belongs to the same token. -/
theorem Row.cons_solid (char_solid : isBlank char = false) (next_solid : isBlank next = false)
    (row : Row (next :: text) found) :
    ∃ token others, found = token :: others ∧
      Row (char :: next :: text) ((char :: token) :: others) := by
  generalize whole_eq : next :: text = whole at row
  cases row with
  | blank whole_blank =>
      have next_blank := whole_blank next (whole_eq ▸ List.mem_cons_self)
      rw [next_solid] at next_blank
      cases next_blank
  | @token lead token rest others lead_blank solid parted row =>
      refine ⟨token, others, rfl, ?_⟩
      cases lead with
      | nil =>
          have longer_solid : Solid (char :: token) :=
            ⟨List.cons_ne_nil char token, List.forall_mem_cons.mpr ⟨char_solid, solid.2⟩⟩
          change Row ([] ++ (char :: token) ++ rest) _
          exact .token lead_blank longer_solid parted row
      | cons first lead =>
          have next_blank := lead_blank first List.mem_cons_self
          rw [← (List.cons.inj whole_eq).1, next_solid] at next_blank
          cases next_blank

theorem row_tokens (text : List Char) : Row text (tokens text) := by
  induction text with
  | nil => exact .blank (List.forall_mem_nil _)
  | cons char rest ih =>
      cases char_blank : isBlank char with
      | true =>
          rw [tokens_cons_blank char_blank]
          exact ih.cons_blank char_blank
      | false =>
          cases rest with
          | nil =>
              have single : tokens [char] = [[char]] := by simp [tokens, char_blank]
              rw [single]
              exact ih.cons_parted char_blank (by simp [Parted])
          | cons next rest =>
              rw [tokens_cons_cons, char_blank, if_neg Bool.false_ne_true]
              cases next_blank : isBlank next with
              | true => exact ih.cons_parted char_blank (by simpa [Parted] using next_blank)
              | false =>
                  obtain ⟨token, others, found_eq, row⟩ := ih.cons_solid char_blank next_blank
                  rw [found_eq, if_neg Bool.false_ne_true]
                  exact row

/-- The tokens that are read are those of the one row that the text is. -/
theorem tokens_eq_iff : tokens text = found ↔ Row text found := by
  constructor
  · rintro rfl
    exact row_tokens text
  · exact Row.tokens_eq

/-- Some blanks between two texts keep their tokens apart. -/
theorem tokens_append_append {blank : List Char} (blank_ne : blank ≠ [])
    (all_blank : AllBlank blank) (left right : List Char) :
    tokens (left ++ blank ++ right) = tokens left ++ tokens right := by
  cases blank with
  | nil => exact absurd rfl blank_ne
  | cons char more =>
      obtain ⟨char_blank, more_blank⟩ := List.forall_mem_cons.mp all_blank
      rw [List.append_assoc, List.cons_append, tokens_append_blank left char_blank,
        tokens_append_of_allBlank more_blank]

theorem splitAt?_eq_none_iff : splitAt? mark token = none ↔ mark ∉ token := by
  induction token with
  | nil => simp [splitAt?]
  | cons char token ih =>
      by_cases is_mark : char = mark
      · simp [splitAt?, is_mark]
      · simp [splitAt?, is_mark, Ne.symm is_mark, ih]

theorem splitAt?_append (front_free : mark ∉ front) (rest : List Char) :
    splitAt? mark (front ++ mark :: rest) = some (front, rest) := by
  induction front with
  | nil => simp [splitAt?]
  | cons char front ih =>
      have char_ne : char ≠ mark := fun is_mark => front_free (is_mark ▸ List.mem_cons_self)
      have tail_free : mark ∉ front := fun member => front_free (List.mem_cons_of_mem char member)
      simp [splitAt?, char_ne, ih tail_free]

/-- A token is cut at its first mark. -/
theorem splitAt?_eq_some_iff :
    splitAt? mark token = some (front, rest) ↔ token = front ++ mark :: rest ∧ mark ∉ front := by
  constructor
  · intro cut
    induction token generalizing front with
    | nil => cases cut
    | cons char token ih =>
        rw [splitAt?] at cut
        split at cut
        · rename_i is_mark
          cases cut
          exact ⟨by rw [is_mark, List.nil_append], List.not_mem_nil⟩
        · rename_i char_ne
          obtain ⟨⟨front, rest⟩, tail_cut, parts_eq⟩ := Option.map_eq_some_iff.mp cut
          cases parts_eq
          obtain ⟨rfl, front_free⟩ := ih tail_cut
          exact ⟨rfl, List.not_mem_cons_of_ne_of_not_mem (Ne.symm char_ne) front_free⟩
  · rintro ⟨rfl, front_free⟩
    exact splitAt?_append front_free rest

end Safepoint.Options
