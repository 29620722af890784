import Conformance.Json.Value
import Conformance.Proofs.Json.Lexing

set_option autoImplicit false

/-!
# The tokens of a value

A value is written with one sequence of tokens.  Reading gives back the value and what follows it
(`read_tokens`), and whatever is read has been written so (`read_sound`).  Together with the
spelling of tokens this says which texts hold a value: those that spell its tokens, and nothing
besides (`ofText?_eq_some_iff`).
-/

namespace Conformance.Json

/-! ## What a value is written with -/

mutual

/-- The tokens of a value. -/
def tokens : Json → List Token
  | .null => [.null]
  | .bool value => [.bool value]
  | .number numeral => [.number numeral]
  | .string text => [.string text]
  | .array [] => [.leftBracket, .rightBracket]
  | .array (item :: items) => .leftBracket :: (item.tokens ++ itemTokens items)
  | .object [] => [.leftBrace, .rightBrace]
  | .object ((key, value) :: members) =>
    .leftBrace :: .string key :: .colon :: (value.tokens ++ memberTokens members)

/-- The tokens of the rest of an array, from the comma or the closing bracket on. -/
def itemTokens : List Json → List Token
  | [] => [.rightBracket]
  | item :: items => .comma :: (item.tokens ++ itemTokens items)

/-- The tokens of the rest of an object, from the comma or the closing brace on. -/
def memberTokens : List (Option String × Json) → List Token
  | [] => [.rightBrace]
  | (key, value) :: members =>
    .comma :: .string key :: .colon :: (value.tokens ++ memberTokens members)

end

/-! ## Reading the tokens of a value -/

/-- No value begins with a closing bracket. -/
theorem exists_tokens_eq_cons (value : Json) :
    ∃ token ts, value.tokens = token :: ts ∧ token ≠ .rightBracket := by
  rcases value with _ | b | n | s | (_ | ⟨item, items⟩) | (_ | ⟨⟨key, member⟩, members⟩)
  all_goals exact ⟨_, _, rfl, nofun⟩

/-- Behind its opening bracket an array with an item is read item by item. -/
theorem read_leftBracket (item : Json) (steps : Nat) (ts : List Token) :
    read (steps + 1) (.leftBracket :: (item.tokens ++ ts)) =
      (readItems steps (item.tokens ++ ts)).map fun (items, rest) => (.array items, rest) := by
  obtain ⟨token, tail, hitem, htoken⟩ := item.exists_tokens_eq_cons
  rw [hitem, List.cons_append, read]
  rintro rest ⟨⟩
  exact htoken rfl

/-- With so many steps, what was written with no more tokens is read back, whatever follows. -/
structure ReadsBack (steps : Nat) : Prop where
  value : ∀ (value : Json) (rest : List Token), value.tokens.length ≤ steps →
    read steps (value.tokens ++ rest) = some (value, rest)
  items : ∀ (item : Json) (items : List Json) (rest : List Token),
    (item.tokens ++ itemTokens items).length ≤ steps →
    readItems steps (item.tokens ++ itemTokens items ++ rest) = some (item :: items, rest)
  members : ∀ (key : Option String) (value : Json) (members : List (Option String × Json))
    (rest : List Token), (value.tokens ++ memberTokens members).length + 2 ≤ steps →
    readMembers steps (.string key :: .colon :: (value.tokens ++ memberTokens members ++ rest)) =
      some ((key, value) :: members, rest)

theorem ReadsBack.value_succ {steps : Nat} (h : ReadsBack steps) (value : Json)
    (rest : List Token) (hlength : value.tokens.length ≤ steps + 1) :
    read (steps + 1) (value.tokens ++ rest) = some (value, rest) := by
  cases value with
  | null | bool b | number n | string s => rfl
  | array items =>
    cases items with
    | nil => rfl
    | cons item items =>
      have hitems := h.items item items rest
        (by simpa [tokens] using hlength)
      rw [tokens, List.cons_append, List.append_assoc, read_leftBracket, ← List.append_assoc,
        hitems]
      rfl
  | object members =>
    rcases members with _ | ⟨⟨key, value⟩, members⟩
    · rfl
    · have hmembers := h.members key value members rest
        (by simp [tokens] at hlength ⊢; omega)
      rw [tokens, List.cons_append, List.cons_append, List.cons_append, read, hmembers]
      · rfl
      · rintro tail ⟨⟩

theorem ReadsBack.items_succ {steps : Nat} (h : ReadsBack steps) (item : Json)
    (items : List Json) (rest : List Token)
    (hlength : (item.tokens ++ itemTokens items).length ≤ steps + 1) :
    readItems (steps + 1) (item.tokens ++ itemTokens items ++ rest) =
      some (item :: items, rest) := by
  rw [List.append_assoc, readItems]
  cases items with
  | nil =>
    have hitem := h.value item (.rightBracket :: rest)
      (by simpa [itemTokens] using hlength)
    simp only [itemTokens, List.cons_append, List.nil_append, hitem]
  | cons next items =>
    have hitem := h.value item (.comma :: (next.tokens ++ itemTokens items ++ rest))
      (by simp [itemTokens] at hlength ⊢; omega)
    have hitems := h.items next items rest
      (by simp [itemTokens] at hlength ⊢; omega)
    simp only [itemTokens, List.cons_append, hitem, hitems, Option.map_some]

theorem ReadsBack.members_succ {steps : Nat} (h : ReadsBack steps) (key : Option String)
    (value : Json) (members : List (Option String × Json)) (rest : List Token)
    (hlength : (value.tokens ++ memberTokens members).length + 2 ≤ steps + 1) :
    readMembers (steps + 1)
        (.string key :: .colon :: (value.tokens ++ memberTokens members ++ rest)) =
      some ((key, value) :: members, rest) := by
  rw [List.append_assoc, readMembers]
  rcases members with _ | ⟨⟨next, other⟩, members⟩
  · have hvalue := h.value value (.rightBrace :: rest)
      (by simp [memberTokens] at hlength ⊢; omega)
    simp only [memberTokens, List.cons_append, List.nil_append, hvalue]
  · have hvalue := h.value value
      (.comma :: .string next :: .colon :: (other.tokens ++ memberTokens members ++ rest))
      (by simp [memberTokens] at hlength ⊢; omega)
    have hmembers := h.members next other members rest
      (by simp [memberTokens] at hlength ⊢; omega)
    simp only [memberTokens, List.cons_append, hvalue, hmembers, Option.map_some]

/-- As many steps are enough as there are tokens. -/
theorem readsBack (steps : Nat) : ReadsBack steps := by
  -- the readers call one another with one step fewer, so the three go together
  induction steps with
  | zero =>
    -- a value has at least one token
    refine ⟨fun value rest h => ?_, fun item items rest h => ?_, fun _ _ _ rest h => by omega⟩
    · obtain ⟨token, ts, hvalue, -⟩ := value.exists_tokens_eq_cons
      simp [hvalue] at h
    · obtain ⟨token, ts, hitem, -⟩ := item.exists_tokens_eq_cons
      simp [hitem] at h
  | succ steps ih => exact ⟨ih.value_succ, ih.items_succ, ih.members_succ⟩

/-! ## What has been read -/

/-- With so many steps, what is read was written, with what remains behind it. -/
structure ReadsWritten (steps : Nat) : Prop where
  value : ∀ {ts rest : List Token} {value : Json}, read steps ts = some (value, rest) →
    ts = value.tokens ++ rest
  items : ∀ {ts rest : List Token} {items : List Json}, readItems steps ts = some (items, rest) →
    ∃ item others, items = item :: others ∧ ts = item.tokens ++ itemTokens others ++ rest
  members : ∀ {ts rest : List Token} {members : List (Option String × Json)},
    readMembers steps ts = some (members, rest) →
    ∃ key value others, members = (key, value) :: others ∧
      ts = .string key :: .colon :: (value.tokens ++ memberTokens others ++ rest)

theorem ReadsWritten.value_succ {steps : Nat} (h : ReadsWritten steps) {ts rest : List Token}
    {value : Json} (hread : read (steps + 1) ts = some (value, rest)) :
    ts = value.tokens ++ rest := by
  unfold read at hread
  split at hread
  case h_6 tail _ =>
    obtain ⟨⟨items, _⟩, hitems, hresult⟩ := Option.map_eq_some_iff.mp hread
    cases hresult
    obtain ⟨item, others, rfl, rfl⟩ := h.items hitems
    rw [tokens, List.cons_append]
  case h_8 tail _ =>
    obtain ⟨⟨members, _⟩, hmembers, hresult⟩ := Option.map_eq_some_iff.mp hread
    cases hresult
    obtain ⟨key, value, others, rfl, rfl⟩ := h.members hmembers
    rw [tokens, List.cons_append, List.cons_append, List.cons_append]
  case h_9 => cases hread
  all_goals
    cases hread
    rfl

theorem ReadsWritten.items_succ {steps : Nat} (h : ReadsWritten steps) {ts rest : List Token}
    {items : List Json} (hread : readItems (steps + 1) ts = some (items, rest)) :
    ∃ item others, items = item :: others ∧ ts = item.tokens ++ itemTokens others ++ rest := by
  unfold readItems at hread
  split at hread
  · next item tail hitem =>
    cases hread
    refine ⟨item, [], rfl, ?_⟩
    rw [h.value hitem, itemTokens, List.append_assoc]
    rfl
  · next item tail hitem =>
    obtain ⟨⟨others, _⟩, hothers, hresult⟩ := Option.map_eq_some_iff.mp hread
    cases hresult
    obtain ⟨next, others, rfl, rfl⟩ := h.items hothers
    refine ⟨item, next :: others, rfl, ?_⟩
    rw [h.value hitem, itemTokens]
    simp only [List.append_assoc, List.cons_append]
  · cases hread

theorem ReadsWritten.members_succ {steps : Nat} (h : ReadsWritten steps) {ts rest : List Token}
    {members : List (Option String × Json)}
    (hread : readMembers (steps + 1) ts = some (members, rest)) :
    ∃ key value others, members = (key, value) :: others ∧
      ts = .string key :: .colon :: (value.tokens ++ memberTokens others ++ rest) := by
  unfold readMembers at hread
  split at hread
  · next key tail =>
    split at hread
    · next value after hvalue =>
      cases hread
      refine ⟨key, value, [], rfl, ?_⟩
      rw [h.value hvalue, memberTokens, List.append_assoc]
      rfl
    · next value after hvalue =>
      obtain ⟨⟨others, _⟩, hothers, hresult⟩ := Option.map_eq_some_iff.mp hread
      cases hresult
      obtain ⟨next, other, others, rfl, rfl⟩ := h.members hothers
      refine ⟨key, value, (next, other) :: others, rfl, ?_⟩
      rw [h.value hvalue, memberTokens]
      simp only [List.append_assoc, List.cons_append]
    · cases hread
  · cases hread

/-- Whatever the number of steps, nothing is read but what was written. -/
theorem readsWritten (steps : Nat) : ReadsWritten steps := by
  induction steps with
  | zero => exact ⟨fun h => by simp [read] at h, fun h => by simp [readItems] at h,
      fun h => by simp [readMembers] at h⟩
  | succ steps ih => exact ⟨ih.value_succ, ih.items_succ, ih.members_succ⟩

/-! ## Numbers among the tokens -/

theorem Token.Separated.cons {token : Token} {ts : List Token} (htoken : token.isNumber = false)
    (h : Separated ts) : Separated (token :: ts) :=
  List.isChain_cons.mpr ⟨fun _ _ => Or.inl htoken, h⟩

theorem Token.Separated.append {ts us : List Token} (hts : Separated ts) (hus : Separated us)
    (hhead : ∀ token ∈ us.head?, token.isNumber = false) : Separated (ts ++ us) :=
  List.isChain_append.mpr ⟨hts, hus, fun _ _ token htoken => Or.inr (hhead token htoken)⟩

theorem head_itemTokens (items : List Json) :
    ∀ token ∈ (itemTokens items).head?, token.isNumber = false := by
  cases items <;> rintro token ⟨⟩ <;> rfl

theorem head_memberTokens (members : List (Option String × Json)) :
    ∀ token ∈ (memberTokens members).head?, token.isNumber = false := by
  rcases members with _ | ⟨⟨key, value⟩, members⟩ <;> rintro token ⟨⟩ <;> rfl

mutual

/-- Behind a number stands a comma, a closing bracket or brace, or nothing. -/
theorem separated_tokens : (value : Json) → Token.Separated value.tokens
  | .null | .bool _ | .number _ | .string _ => .singleton _
  | .array [] | .object [] => .cons rfl (.singleton _)
  | .array (item :: items) =>
    .cons rfl ((separated_tokens item).append (separated_itemTokens items) (head_itemTokens items))
  | .object ((_, value) :: members) =>
    .cons rfl (.cons rfl (.cons rfl ((separated_tokens value).append
      (separated_memberTokens members) (head_memberTokens members))))

theorem separated_itemTokens : (items : List Json) → Token.Separated (itemTokens items)
  | [] => .singleton _
  | item :: items =>
    .cons rfl ((separated_tokens item).append (separated_itemTokens items) (head_itemTokens items))

theorem separated_memberTokens :
    (members : List (Option String × Json)) → Token.Separated (memberTokens members)
  | [] => .singleton _
  | (_, value) :: members =>
    .cons rfl (.cons rfl (.cons rfl ((separated_tokens value).append
      (separated_memberTokens members) (head_memberTokens members))))

end

/-- What begins with a bracket ends with one, and what begins with a brace ends with one. -/
theorem getLast?_itemTokens (items : List Json) :
    (itemTokens items).getLast? = some .rightBracket := by
  induction items with
  | nil => rfl
  | cons item items ih => simp [itemTokens, List.getLast?_cons, List.getLast?_append, ih]

theorem getLast?_memberTokens (members : List (Option String × Json)) :
    (memberTokens members).getLast? = some .rightBrace := by
  induction members with
  | nil => rfl
  | cons member members ih =>
    simp [memberTokens, List.getLast?_cons, List.getLast?_append, ih]

/-- The last token of a value that is not a number is not one either. -/
theorem getLast?_tokens {value : Json} (h : ∀ n, value ≠ .number n) :
    ∀ token ∈ value.tokens.getLast?, token.isNumber = false := by
  rcases value with _ | b | n | s | (_ | ⟨item, items⟩) | (_ | ⟨⟨key, value⟩, members⟩)
  case number => exact absurd rfl (h n)
  case array.cons =>
    simp [tokens, List.getLast?_cons, List.getLast?_append, getLast?_itemTokens, Token.isNumber]
  case object.cons =>
    simp [tokens, List.getLast?_cons, List.getLast?_append, getLast?_memberTokens, Token.isNumber]
  all_goals
    rintro token ⟨⟩
    rfl

theorem number_mem_itemTokens {items : List Json} {n : Numeral} :
    .number n ∈ itemTokens items ↔ ∃ item ∈ items, .number n ∈ item.tokens := by
  induction items with
  | nil => simp [itemTokens]
  | cons item items ih => simp [itemTokens, ih]

/-- The numbers of an array are those of its items. -/
theorem number_mem_array {items : List Json} {n : Numeral} :
    .number n ∈ (Json.array items).tokens ↔ ∃ item ∈ items, .number n ∈ item.tokens := by
  cases items with
  | nil => simp [tokens]
  | cons item items => simp [tokens, number_mem_itemTokens]

/-! ## Documents -/

/-- The text writes the value: it spells the tokens of the value, in any spelling of each of them
and with any white space in between. -/
def Document (value : Json) (text : String) : Prop := Token.Spells value.tokens text.toList

/-- A text is read as the value that it writes; there is at most one. -/
theorem ofText?_eq_some_iff {text : String} {value : Json} :
    ofText? text = some value ↔ Document value text := by
  rw [Document, ← Token.ofText?_eq_some_iff (separated_tokens value), ofText?,
    Option.bind_eq_bind, Option.bind_eq_some_iff]
  constructor
  · rintro ⟨ts, hts, hread⟩
    split at hread
    · next result hresult =>
      cases hread
      rw [hts, (readsWritten _).value hresult, List.append_nil]
    · cases hread
  · intro htokens
    have hread := (readsBack value.tokens.length).value value [] le_rfl
    rw [List.append_nil] at hread
    exact ⟨value.tokens, htokens, by rw [hread]⟩

/-- Nothing but white space may stand behind a value that is not a number. -/
theorem ofText?_append_eq_none {text extra : String} {value : Json}
    (h : ofText? text = some value) (hvalue : ∀ n, value ≠ .number n)
    (hextra : ¬ Token.Blank extra.toList) : ofText? (text ++ extra) = none := by
  rw [Option.eq_none_iff_forall_ne_some]
  intro other hother
  -- the tokens of the longer text begin with those of the value, and reading stops behind them
  rw [ofText?, Option.bind_eq_bind, Option.bind_eq_some_iff] at hother
  obtain ⟨all, hall, hread⟩ := hother
  rw [String.toList_append] at hall
  obtain ⟨more, rfl, hmore⟩ := Token.ofText?_append (ofText?_eq_some_iff.mp h)
    (separated_tokens value) (getLast?_tokens hvalue) hall
  rw [(readsBack _).value value more (by simp)] at hread
  split at hread
  · next result hresult =>
    obtain ⟨-, rfl⟩ := Prod.mk.inj (Option.some.inj hresult)
    exact hextra hmore.blank
  · cases hread

end Conformance.Json
