import TruckDepot.Json.Printer
import TruckDepot.Json.Reader
import TruckDepot.Proofs.Json.Escape
import TruckDepot.Proofs.Json.Number

/-!
# A written value is read back

Every JSON value whose numbers and strings are spelled as JSON wants them is read back from its text
(`Json.parse_text`).  In between stand its tokens (`Json.tokens`): the text is cut into them
(`Json.WellSpelled.lexes`), whatever its layout, and they are put together to the value
(`Json.foldlM_tokens`), whatever containers are open around it.
-/

namespace TruckDepot.Json

open Text

/-! ### Cutting the pieces of a text -/

variable {found : List Token} {rest : List Char}

theorem lexFrom_space {c : Char} (h : isSpace c = true) :
    lexFrom found (c :: rest) = lexFrom found rest := by
  rw [lexFrom, if_pos h]

theorem lexFrom_lexeme {c : Char} {s : List Char} {token : Token} (hspace : isSpace c = false)
    (h : (lexeme (c :: s)).map (fun (token, left) => (token, left.1)) = some (token, rest)) :
    lexFrom found (c :: s) = lexFrom (token :: found) rest := by
  obtain ⟨⟨token', left⟩, hlexeme, heq⟩ := Option.map_eq_some_iff.mp h
  obtain ⟨rfl, rfl⟩ := Prod.mk.inj heq
  rw [lexFrom, hspace, hlexeme]
  rfl

theorem lexFrom_newLine (level : Nat) :
    lexFrom found (newLine level ++ rest) = lexFrom found rest := by
  show lexFrom found ('\n' :: (List.replicate (2 * level) ' ' ++ rest)) = _
  rw [lexFrom_space rfl]
  induction 2 * level with
  | zero => rfl
  | succ spaces ih =>
    rw [List.replicate_succ, List.cons_append, lexFrom_space rfl, ih]

theorem lexFrom_mark {c : Char} {t : Token} (h : mark? c = some t) :
    lexFrom found (c :: rest) = lexFrom (t :: found) rest := by
  unfold mark? at h
  split_ifs at h with hc hc hc hc hc hc
  all_goals
    obtain rfl := Option.some.inj h
    subst hc
    exact lexFrom_lexeme rfl rfl

theorem lexFrom_quoted {t : List Char} (h : Spells t) :
    lexFrom found (quoted t ++ rest) = lexFrom (.string t :: found) rest := by
  have hbody := h rest
  have hshape : quoted t ++ rest = '"' :: (t ++ '"' :: rest) := by
    show '"' :: (t ++ ['"'] ++ rest) = _
    rw [List.append_assoc]
    rfl
  unfold body? at hbody
  obtain ⟨⟨body, left⟩, hstring, heq⟩ := Option.map_eq_some_iff.mp hbody
  obtain ⟨rfl, hleft⟩ := Prod.mk.inj heq
  rw [hshape]
  refine lexFrom_lexeme rfl ?_
  rw [lexeme, hstring]
  exact congrArg (fun left => some (Token.string body, left)) hleft

/-- What is left, `rest`, does not go on with a number. -/
def Ends (rest : List Char) : Prop :=
  ∀ c ∈ rest.head?, isNumberChar c = false

theorem takeWhile_of_ends (h : Ends rest) : rest.takeWhile isNumberChar = [] := by
  cases rest with
  | nil => rfl
  | cons c rest => exact List.takeWhile_cons_of_neg (Bool.not_eq_true _ ▸ h c rfl)

theorem dropWhile_of_ends (h : Ends rest) : rest.dropWhile isNumberChar = rest := by
  cases rest with
  | nil => rfl
  | cons c rest => exact List.dropWhile_cons_of_neg (Bool.not_eq_true _ ▸ h c rfl)

/-- A character of a number is no blank, no mark, no quote and no first letter of a word. -/
theorem lexeme_numberChar {c : Char} (h : isNumberChar c = true) (s : List Char) :
    isSpace c = false ∧ lexeme (c :: s) =
      if isNumberChar c && isNumber (c :: s.takeWhile isNumberChar) then
        some (.number (c :: s.takeWhile isNumberChar), .afterAll isNumberChar c s)
      else none := by
  have hne : ∀ d, isNumberChar d = false → c ≠ d := by
    rintro d hd rfl
    exact Bool.false_ne_true (hd.symm.trans h)
  constructor
  · unfold isSpace
    simp only [Bool.or_eq_false_iff, beq_eq_false_iff_ne]
    exact ⟨⟨⟨hne _ rfl, hne _ rfl⟩, hne _ rfl⟩, hne _ rfl⟩
  · have hmark : mark? c = none := by
      unfold mark?
      rw [if_neg (hne _ rfl), if_neg (hne _ rfl), if_neg (hne _ rfl), if_neg (hne _ rfl),
        if_neg (hne _ rfl), if_neg (hne _ rfl)]
    rw [lexeme, hmark]
    · exact fun _ hc => absurd hc (hne _ rfl)
    · exact fun _ hc => absurd hc (hne _ rfl)
    · exact fun _ hc => absurd hc (hne _ rfl)
    · exact hne _ rfl

theorem lexFrom_number {t : List Char} (h : isNumber t = true) (hrest : Ends rest) :
    lexFrom found (t ++ rest) = lexFrom (.number t :: found) rest := by
  have hchars := numberChars_of_isNumber h
  cases t with
  | nil => cases h
  | cons c t =>
    obtain ⟨hc, ht⟩ := List.forall_mem_cons.mp hchars
    obtain ⟨hspace, hlexeme⟩ := lexeme_numberChar hc (t ++ rest)
    have htake : (t ++ rest).takeWhile isNumberChar = t := by
      rw [List.takeWhile_append_of_pos ht, takeWhile_of_ends hrest, List.append_nil]
    have hdrop : (t ++ rest).dropWhile isNumberChar = rest := by
      rw [List.dropWhile_append_of_pos ht, dropWhile_of_ends hrest]
    rw [htake, hc, h] at hlexeme
    refine lexFrom_lexeme hspace ?_
    show (lexeme (c :: (t ++ rest))).map _ = _
    rw [hlexeme]
    exact congrArg (fun left => some (Token.number (c :: t), left)) hdrop

/-! ### The tokens of a value -/

mutual

/-- The tokens of a value, in the order in which they are written. -/
def tokens : Json → List Token
  | .null => [.null]
  | .truth value => [.truth value]
  | .number text => [.number text]
  | .string text => [.string text]
  | .array [] => [.openArray, .closeArray]
  | .array (item :: items) => .openArray :: (tokens item ++ laterItems items ++ [.closeArray])
  | .object [] => [.openObject, .closeObject]
  | .object ((key, value) :: members) =>
    .openObject :: .string key :: .colon ::
      (tokens value ++ laterMembers members ++ [.closeObject])

/-- The tokens of the items of an array after its first. -/
def laterItems : List Json → List Token
  | [] => []
  | item :: items => .comma :: (tokens item ++ laterItems items)

/-- The tokens of the members of an object after its first. -/
def laterMembers : List (List Char × Json) → List Token
  | [] => []
  | (key, value) :: members =>
    .comma :: .string key :: .colon :: (tokens value ++ laterMembers members)

end

/-- Every number of the value is spelled as one, `isNumber`, and every string and key `Spells`. -/
inductive WellSpelled : Json → Prop where
  | null : WellSpelled .null
  | truth (value : Bool) : WellSpelled (.truth value)
  | number {text : List Char} (h : isNumber text = true) : WellSpelled (.number text)
  | string {text : List Char} (h : Spells text) : WellSpelled (.string text)
  | array {items : List Json} (h : ∀ item ∈ items, WellSpelled item) : WellSpelled (.array items)
  | object {members : List (List Char × Json)} (hkeys : ∀ m ∈ members, Spells m.1)
      (hvalues : ∀ m ∈ members, WellSpelled m.2) : WellSpelled (.object members)

/-- The text of the value, at any level of nesting, is cut into its `tokens`. -/
def Lexes (value : Json) : Prop :=
  ∀ level found rest, Ends rest →
    lexFrom found (pretty level value ++ rest) = lexFrom ((tokens value).reverse ++ found) rest

theorem ends_newLine (level : Nat) (rest : List Char) : Ends (newLine level ++ rest) := by
  rintro c ⟨⟩
  rfl

theorem ends_prettyItems (level : Nat) (items : List Json) (h : Ends rest) :
    Ends (prettyItems level items ++ rest) := by
  cases items with
  | nil => exact h
  | cons item items =>
    rintro c ⟨⟩
    rfl

theorem ends_prettyMembers (level : Nat) (members : List (List Char × Json)) (h : Ends rest) :
    Ends (prettyMembers level members ++ rest) := by
  cases members with
  | nil => exact h
  | cons member members =>
    rintro c ⟨⟩
    rfl

theorem lexFrom_prettyItems {items : List Json} (h : ∀ item ∈ items, Lexes item) (level : Nat)
    (hrest : Ends rest) : lexFrom found (prettyItems level items ++ rest) =
      lexFrom ((laterItems items).reverse ++ found) rest := by
  induction items generalizing found with
  | nil => rfl
  | cons item items ih =>
    obtain ⟨hitem, hitems⟩ := List.forall_mem_cons.mp h
    have hshape : prettyItems level (item :: items) ++ rest =
        ',' :: (newLine level ++ (pretty level item ++ (prettyItems level items ++ rest))) := by
      simp only [prettyItems, List.cons_append, List.append_assoc]
    have htokens : (laterItems (item :: items)).reverse ++ found =
        (laterItems items).reverse ++ ((tokens item).reverse ++ .comma :: found) := by
      simp only [laterItems, List.reverse_cons, List.reverse_append, List.append_assoc,
        List.singleton_append]
    rw [hshape, htokens, lexFrom_mark (t := .comma) rfl, lexFrom_newLine,
      hitem _ _ _ (ends_prettyItems level items hrest), ih hitems]

theorem lexFrom_member {key : List Char} (hkey : Spells key) {value : Json} (hvalue : Lexes value)
    (level : Nat) (hrest : Ends rest) :
    lexFrom found (quoted key ++ ':' :: ' ' :: (pretty level value ++ rest)) =
      lexFrom ((tokens value).reverse ++ .colon :: .string key :: found) rest := by
  rw [lexFrom_quoted hkey, lexFrom_mark (t := .colon) rfl, lexFrom_space rfl,
    hvalue _ _ _ hrest]

theorem lexFrom_prettyMembers {members : List (List Char × Json)}
    (hkeys : ∀ m ∈ members, Spells m.1) (hvalues : ∀ m ∈ members, Lexes m.2) (level : Nat)
    (hrest : Ends rest) : lexFrom found (prettyMembers level members ++ rest) =
      lexFrom ((laterMembers members).reverse ++ found) rest := by
  induction members generalizing found with
  | nil => rfl
  | cons member members ih =>
    obtain ⟨key, value⟩ := member
    obtain ⟨hkey, hkeys⟩ := List.forall_mem_cons.mp hkeys
    obtain ⟨hvalue, hvalues⟩ := List.forall_mem_cons.mp hvalues
    -- the text and the tokens, piece by piece from the front
    have hshape : prettyMembers level ((key, value) :: members) ++ rest =
        ',' :: (newLine level ++ (quoted key ++ ':' :: ' ' ::
          (pretty level value ++ (prettyMembers level members ++ rest)))) := by
      simp only [prettyMembers, List.cons_append, List.append_assoc, List.nil_append]
    have htokens : (laterMembers ((key, value) :: members)).reverse ++ found =
        (laterMembers members).reverse ++
          ((tokens value).reverse ++ .colon :: .string key :: .comma :: found) := by
      simp only [laterMembers, List.reverse_cons, List.reverse_append, List.append_assoc,
        List.cons_append, List.nil_append]
    rw [hshape, htokens, lexFrom_mark (t := .comma) rfl, lexFrom_newLine,
      lexFrom_member hkey hvalue level (ends_prettyMembers level members hrest),
      ih hkeys hvalues]

theorem WellSpelled.lexes {value : Json} (h : WellSpelled value) : Lexes value := by
  -- on how the value is built; what is inside a container is known at every level already
  induction h with
  | null =>
    intro level found rest _
    exact lexFrom_lexeme rfl rfl
  | truth value =>
    intro level found rest _
    cases value with
    | true => exact lexFrom_lexeme rfl rfl
    | false => exact lexFrom_lexeme rfl rfl
  | number h =>
    intro level found rest hrest
    simp only [pretty, tokens]
    exact lexFrom_number h hrest
  | string h =>
    intro level found rest _
    simp only [pretty, tokens]
    exact lexFrom_quoted h
  | @array items _ ih =>
    intro level found rest hrest
    cases items with
    | nil =>
      simp only [pretty, tokens]
      exact (lexFrom_mark (t := .openArray) rfl).trans (lexFrom_mark (t := .closeArray) rfl)
    | cons item items =>
      obtain ⟨hitem, hitems⟩ := List.forall_mem_cons.mp ih
      -- a line break stands before the bracket, so a number as the last item ends there
      have hclose : Ends (newLine level ++ ']' :: rest) := ends_newLine level _
      have hshape : pretty level (.array (item :: items)) ++ rest =
          '[' :: (newLine (level + 1) ++ (pretty (level + 1) item ++
            (prettyItems (level + 1) items ++ (newLine level ++ ']' :: rest)))) := by
        simp only [pretty, List.cons_append, List.append_assoc, List.nil_append]
      have htokens : (tokens (.array (item :: items))).reverse ++ found =
          .closeArray :: ((laterItems items).reverse ++
            ((tokens item).reverse ++ .openArray :: found)) := by
        simp only [tokens, List.reverse_cons, List.reverse_append, List.append_assoc,
          List.cons_append, List.nil_append, List.reverse_nil]
      rw [hshape, htokens, lexFrom_mark (t := .openArray) rfl, lexFrom_newLine,
        hitem _ _ _ (ends_prettyItems _ items hclose), lexFrom_prettyItems hitems _ hclose,
        lexFrom_newLine, lexFrom_mark (t := .closeArray) rfl]
  | @object members hkeys _ ih =>
    intro level found rest hrest
    cases members with
    | nil =>
      simp only [pretty, tokens]
      exact (lexFrom_mark (t := .openObject) rfl).trans
        (lexFrom_mark (t := .closeObject) rfl)
    | cons member members =>
      obtain ⟨key, value⟩ := member
      obtain ⟨hkey, hkeys⟩ := List.forall_mem_cons.mp hkeys
      obtain ⟨hvalue, hvalues⟩ := List.forall_mem_cons.mp ih
      have hclose : Ends (newLine level ++ '\x7d' :: rest) := ends_newLine level _
      have hshape : pretty level (.object ((key, value) :: members)) ++ rest =
          '\x7b' :: (newLine (level + 1) ++ (quoted key ++ ':' :: ' ' ::
            (pretty (level + 1) value ++ (prettyMembers (level + 1) members ++
              (newLine level ++ '\x7d' :: rest))))) := by
        simp only [pretty, List.cons_append, List.append_assoc, List.nil_append]
      have htokens : (tokens (.object ((key, value) :: members))).reverse ++ found =
          .closeObject :: ((laterMembers members).reverse ++
            ((tokens value).reverse ++ .colon :: .string key :: .openObject :: found)) := by
        simp only [tokens, List.reverse_cons, List.reverse_append, List.append_assoc,
          List.cons_append, List.nil_append, List.reverse_nil]
      rw [hshape, htokens, lexFrom_mark (t := .openObject) rfl, lexFrom_newLine,
        lexFrom_member hkey hvalue _ (ends_prettyMembers _ members hclose),
        lexFrom_prettyMembers hkeys hvalues _ hclose, lexFrom_newLine,
        lexFrom_mark (t := .closeObject) rfl]

/-! ### The value of the tokens -/

/-- Where an array may end, its first item is taken as it is where it may not. -/
theorem foldlM_itemOrEnd (value : Json) (outer : List Open) :
    (tokens value).foldlM Expecting.take (.itemOrEnd outer) =
      (tokens value).foldlM Expecting.take (.value (.array [] :: outer)) := by
  cases value with
  | null => rfl
  | truth value => rfl
  | number text => rfl
  | string text => rfl
  | array items =>
    cases items with
    | nil => rfl
    | cons item items => rfl
  | object members =>
    cases members with
    | nil => rfl
    | cons member members => rfl

mutual

/-- **The `tokens` of a value are put together to the value**, whatever is open around it. -/
theorem foldlM_tokens : (value : Json) → (outer : List Open) →
    (tokens value).foldlM Expecting.take (.value outer) = some (settle value outer)
  | .null, _ => rfl
  | .truth _, _ => rfl
  | .number _, _ => rfl
  | .string _, _ => rfl
  | .array [], _ => rfl
  -- the first item is taken where the array could end, and the others where an item must follow
  | .array (item :: items), outer => by
    have hitem := foldlM_tokens item (.array [] :: outer)
    have hitems := foldlM_laterItems items [item] outer
    show (tokens item ++ laterItems items ++ [Token.closeArray]).foldlM Expecting.take
      (.itemOrEnd outer) = _
    rw [List.foldlM_append, List.foldlM_append, foldlM_itemOrEnd, hitem]
    -- items are collected last one first, and turned round at the closing bracket
    show ((laterItems items).foldlM Expecting.take (.nextItem [item] outer)).bind _ = _
    rw [hitems]
    show some (settle (.array (items.reverse ++ [item]).reverse) outer) = _
    rw [List.reverse_append, List.reverse_reverse]
    rfl
  | .object [], _ => rfl
  | .object ((key, value) :: members), outer => by
    have hvalue := foldlM_tokens value (.object [] key :: outer)
    have hmembers := foldlM_laterMembers members [(key, value)] outer
    show (tokens value ++ laterMembers members ++ [Token.closeObject]).foldlM Expecting.take
      (.value (.object [] key :: outer)) = _
    rw [List.foldlM_append, List.foldlM_append, hvalue]
    show ((laterMembers members).foldlM Expecting.take
      (.nextMember [(key, value)] outer)).bind _ = _
    rw [hmembers]
    show some (settle (.object (members.reverse ++ [(key, value)]).reverse) outer) = _
    rw [List.reverse_append, List.reverse_reverse]
    rfl

/-- The tokens of further items add these to an open array. -/
theorem foldlM_laterItems : (items done : List Json) → (outer : List Open) →
    (laterItems items).foldlM Expecting.take (.nextItem done outer) =
      some (.nextItem (items.reverse ++ done) outer)
  | [], _, _ => rfl
  | item :: items, done, outer => by
    have hitem := foldlM_tokens item (.array done :: outer)
    have hitems := foldlM_laterItems items (item :: done) outer
    show (tokens item ++ laterItems items).foldlM Expecting.take (.value (.array done :: outer)) = _
    rw [List.foldlM_append, hitem, List.reverse_cons, List.append_assoc]
    exact hitems

/-- The tokens of further members add these to an open object. -/
theorem foldlM_laterMembers : (members done : List (List Char × Json)) → (outer : List Open) →
    (laterMembers members).foldlM Expecting.take (.nextMember done outer) =
      some (.nextMember (members.reverse ++ done) outer)
  | [], _, _ => rfl
  | (key, value) :: members, done, outer => by
    have hvalue := foldlM_tokens value (.object done key :: outer)
    have hmembers := foldlM_laterMembers members ((key, value) :: done) outer
    show (tokens value ++ laterMembers members).foldlM Expecting.take
      (.value (.object done key :: outer)) = _
    rw [List.foldlM_append, hvalue, List.reverse_cons, List.append_assoc]
    exact hmembers

end

/-- **`parse` reads back `text value`** for every `WellSpelled` value. -/
theorem parse_text {value : Json} (h : WellSpelled value) : parse (text value) = some value := by
  have hlex : lex (text value) = some (tokens value) := by
    have hend := h.lexes 0 [] [] (fun c hc => by cases hc)
    rw [List.append_nil, List.append_nil] at hend
    show lexFrom [] (pretty 0 value) = _
    rw [hend, lexFrom, List.reverse_reverse]
  unfold parse ofTokens
  rw [hlex, Option.bind_some, foldlM_tokens]
  rfl

end TruckDepot.Json
