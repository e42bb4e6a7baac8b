import PolicyHost.Proofs.Json.Alike
import PolicyHost.Proofs.Json.Compact
import PolicyHost.Proofs.Json.Short

/-!
# Texts as tokens

Between a value and its text stand the tokens of the text. A text is cut into tokens in one way, and the
tokens of a value say which value it is, wherever they end.

* `Cuts`, `Cuts.unique`: the tokens of a text, with blanks between them.
* `tokensOf`, `separated`: the tokens of a value.
* `tokensOf_inj`: they belong to one value.
* `Takes`, `Cuts.readsTo`: what a reader does with tokens.
-/

namespace PolicyHost.Json

/-! ## Cutting a text -/

/-- A text is cut into tokens up to where `tail` begins. Blanks may stand in front of each token, and behind
the last one. -/
inductive Cuts : Text → List Token → Text → Prop
  | stop (tail : Text) : Cuts tail [] tail
  | gap {c : CodePoint} {rest tail : Text} {tokens : List Token} :
      isGap c = true → Cuts rest tokens tail → Cuts (c :: rest) tokens tail
  | token {t middle tail : Text} {token : Token} {tokens : List Token} :
      Begins t token middle → Cuts middle tokens tail → Cuts t (token :: tokens) tail

namespace Cuts

variable {t u middle tail : Text} {tokens more : List Token} {token : Token}

theorem append (first : Cuts t tokens middle) (second : Cuts middle more tail) :
    Cuts t (tokens ++ more) tail := by
  induction first with
  | stop => exact second
  | gap blank _ ih => exact .gap blank (ih second)
  | token begins _ ih => exact .token begins (ih second)

theorem one (begins : Begins t token tail) : Cuts t [token] tail := .token begins (.stop tail)

theorem gaps (blank : ∀ c ∈ u, isGap c = true) (cuts : Cuts t tokens tail) : Cuts (u ++ t) tokens tail := by
  induction u with
  | nil => exact cuts
  | cons c rest ih =>
    obtain ⟨first, others⟩ := List.forall_mem_cons.mp blank
    exact .gap first (ih others)

end Cuts

/-- The token in front of a text is one, and so is what follows it. -/
theorem Begins.unique {t tail tail' : Text} {token token' : Token} (first : Begins t token tail)
    (second : Begins t token' tail') : token = token' ∧ tail = tail' := by
  obtain ⟨c, rest, rfl, -, -, scanned⟩ := first
  obtain ⟨_, _, ⟨⟩, -, -, scanned'⟩ := second
  obtain ⟨_, found⟩ := scanned 0
  obtain ⟨_, found'⟩ := scanned' 0
  cases found.symm.trans found'
  exact ⟨rfl, rfl⟩

theorem Begins.not_gap {c : CodePoint} {rest tail : Text} {token : Token}
    (begins : Begins (c :: rest) token tail) : isGap c = false := by
  obtain ⟨_, _, ⟨⟩, solid, -⟩ := begins
  exact solid

/-- A text is cut to its end in one way. -/
theorem Cuts.unique {t : Text} {tokens others : List Token} (first : Cuts t tokens [])
    (second : Cuts t others []) : tokens = others := by
  -- The end of the text is an index of the first cutting, so it must be a variable for the induction.
  generalize ended : ([] : Text) = tail at first
  induction first generalizing others with
  | stop tail =>
    subst ended
    cases second with
    | stop => rfl
    | token begins _ =>
      obtain ⟨_, _, ⟨⟩, -⟩ := begins
  | gap blank _ ih =>
    cases second with
    | gap _ rest => exact ih rest ended
    | token begins _ =>
      rw [begins.not_gap] at blank
      cases blank
  | token begins _ ih =>
    cases second with
    | stop => obtain ⟨_, _, ⟨⟩, -⟩ := begins
    | gap blank _ =>
      rw [begins.not_gap] at blank
      cases blank
    | token begins' rest =>
      obtain ⟨rfl, rfl⟩ := begins.unique begins'
      rw [ih rest ended]

/-! ## Tokens of a value -/

def integer (n : Int) : Numeral := ⟨decide (n < 0), Text.ofNat n.natAbs, [], none⟩

/-- A comma in front of each entry but the first. -/
def lead (first : Bool) : List Token := if first then [] else [.comma]

/-- Entries with commas between them, and a closing mark behind them. -/
def separated (closing : Token) : (first : Bool) → List (List Token) → List Token
  | _, [] => [closing]
  | first, entry :: rest => lead first ++ (entry ++ separated closing false rest)

mutual

def tokensOf : Json → List Token
  | .null => [.literal .null]
  | .bool b => [.literal (.bool b)]
  | .int n => [.numeral (integer n)]
  | .float x => [.literal (.float x)]
  | .string t => [.string t]
  | .array items => .openBracket :: separated .closeBracket true (itemsTokens items)
  | .object members => .openBrace :: separated .closeBrace true (membersTokens members)

def itemsTokens : List Json → List (List Token)
  | [] => []
  | item :: rest => tokensOf item :: itemsTokens rest

def membersTokens : List (Text × Json) → List (List Token)
  | [] => []
  | (name, value) :: rest => (.string name :: .colon :: tokensOf value) :: membersTokens rest

end

def memberTokens (member : Text × Json) : List Token := .string member.1 :: .colon :: tokensOf member.2

theorem itemsTokens_eq (items : List Json) : itemsTokens items = items.map tokensOf := by
  induction items with
  | nil => rfl
  | cons item rest ih => rw [itemsTokens, ih, List.map_cons]

theorem membersTokens_eq (members : Members) : membersTokens members = members.map memberTokens := by
  induction members with
  | nil => rfl
  | cons member rest ih => rw [membersTokens, ih, List.map_cons]; rfl

/-! ## One value for its tokens -/

theorem integer_inj {n m : Int} (same : integer n = integer m) : n = m := by
  obtain ⟨sign, digits, -, -⟩ := Numeral.mk.inj same
  have magnitude : n.natAbs = m.natAbs := by
    rw [← Text.digitsValue_ofNat n.natAbs, digits, Text.digitsValue_ofNat]
  rw [decide_eq_decide] at sign
  omega

/-- A closing mark is told from a comma, and from an entry. -/
theorem closing_ne {closing : Token} (other : closing ≠ .comma) {entry : List Token}
    (solid : ∀ r r', entry ++ r ≠ closing :: r') (first : Bool) (rest r r' : List Token) :
    closing :: r ≠ lead first ++ (entry ++ rest) ++ r' := by
  cases first with
  | false => exact fun same => other (List.cons.inj same).1
  | true =>
    intro same
    rw [List.append_assoc, List.append_assoc] at same
    exact solid _ _ same.symm

/-- Entries that end by themselves, and do not begin with the closing mark, are known by their tokens. -/
theorem separated_inj {α : Type} {closing : Token} (other : closing ≠ .comma) (f : α → List Token)
    {as bs : List α} (each : ∀ a ∈ as, ∀ b ∈ bs, ∀ r r', f a ++ r = f b ++ r' → a = b ∧ r = r')
    (solid : ∀ a r r', f a ++ r ≠ closing :: r') {first : Bool} {r r' : List Token}
    (same : separated closing first (as.map f) ++ r = separated closing first (bs.map f) ++ r') :
    as = bs ∧ r = r' := by
  induction as generalizing bs first with
  | nil =>
    cases bs with
    | nil => exact ⟨rfl, (List.cons.inj same).2⟩
    | cons b bs => exact absurd same (closing_ne other (solid b) first _ _ _)
  | cons a as ih =>
    cases bs with
    | nil => exact absurd same.symm (closing_ne other (solid a) first _ _ _)
    | cons b bs =>
      simp only [List.map_cons, separated, List.append_assoc] at same
      obtain ⟨rfl, behind⟩ :=
        each a List.mem_cons_self b List.mem_cons_self _ _ (List.append_cancel_left same)
      obtain ⟨rfl, rest⟩ := ih (fun x inside y there =>
        each x (List.mem_cons_of_mem _ inside) y (List.mem_cons_of_mem _ there)) behind
      exact ⟨rfl, rest⟩

/-- The tokens of a value do not begin with the mark that closes an array. -/
theorem tokensOf_solid (value : Json) (r r' : List Token) :
    tokensOf value ++ r ≠ .closeBracket :: r' := by
  cases value <;> simp [tokensOf]

/-- Tokens of values that are the same up to where one of them ends are those of one value. -/
theorem tokensOf_inj {a b : Json} {r r' : List Token} (same : tokensOf a ++ r = tokensOf b ++ r') :
    a = b ∧ r = r' := by
  induction a using induction_parts generalizing b r r' with
  | array items each =>
    cases b with
    | array others =>
      rw [tokensOf, tokensOf, itemsTokens_eq, itemsTokens_eq] at same
      obtain ⟨rfl, rest⟩ := separated_inj (by simp) tokensOf
        (fun item inside other _ _ _ equal => each item inside equal) tokensOf_solid (List.cons.inj same).2
      exact ⟨rfl, rest⟩
    | _ => simp [tokensOf] at same
  | object members each =>
    cases b with
    | object others =>
      rw [tokensOf, tokensOf, membersTokens_eq, membersTokens_eq] at same
      have entries : ∀ member ∈ members, ∀ other ∈ others, ∀ r r',
          memberTokens member ++ r = memberTokens other ++ r' → member = other ∧ r = r' := by
        rintro ⟨name, value⟩ inside ⟨name', value'⟩ there r r' equal
        simp only [memberTokens, List.cons_append, List.cons.injEq, Token.string.injEq, true_and] at equal
        obtain ⟨rfl, values⟩ := equal
        obtain ⟨same, rest⟩ := each _ inside values
        exact ⟨congrArg (Prod.mk name) same, rest⟩
      obtain ⟨rfl, rest⟩ := separated_inj (by simp) memberTokens entries
        (fun member r r' => by simp [memberTokens]) (List.cons.inj same).2
      exact ⟨rfl, rest⟩
    | _ => simp [tokensOf] at same
  | int n =>
    cases b with
    | int m =>
      obtain ⟨first, rest⟩ := List.cons.inj same
      exact ⟨congrArg Json.int (integer_inj (Token.numeral.inj first)), rest⟩
    | _ => simp [tokensOf] at same
  | _ => cases b <;> simp_all [tokensOf]

/-! ## Reading tokens -/

/-- A reader takes tokens one after another, wherever they stand. -/
def Takes [Room] : Reader → List Token → Reader → Prop
  | s, [], last => s = last
  | s, token :: rest, last => ∃ next, (∀ start, s.step ⟨start, token⟩ = .ok next) ∧ Takes next rest last

theorem Takes.append [Room] {s middle last : Reader} {tokens more : List Token} (first : Takes s tokens middle)
    (second : Takes middle more last) : Takes s (tokens ++ more) last := by
  induction tokens generalizing s with
  | nil => exact first ▸ second
  | cons token rest ih =>
    obtain ⟨next, stepped, later⟩ := first
    exact ⟨next, stepped, ih later⟩

theorem ReadsTo.gap [Room] {s last : Reader} {c : CodePoint} {rest : Text} (blank : isGap c = true)
    (reads : ReadsTo s rest last) : ReadsTo s (c :: rest) last := by
  intro offset steps enough
  obtain ⟨more, rfl⟩ : ∃ more, steps = more + 1 := ⟨steps - 1, by simp at enough; omega⟩
  rw [lexemesFrom, if_pos blank]
  exact reads _ _ (by simp at enough; omega)

/-- A reader reads a text by its tokens. -/
theorem Cuts.readsTo [Room] {s next last : Reader} {t tail : Text} {tokens : List Token}
    (cuts : Cuts t tokens tail)
    (takes : Takes s tokens next) (rest : ReadsTo next tail last) : ReadsTo s t last := by
  induction cuts generalizing s with
  | stop => exact takes ▸ rest
  | gap blank _ ih => exact .gap blank (ih takes rest)
  | token begins _ ih =>
    obtain ⟨middle, stepped, later⟩ := takes
    exact .lexeme begins stepped (ih later rest)

section

variable {stack : List Frame}

/-- Inside an array behind an item a reader takes the other items and closes the array. -/
theorem takes_items [Room] {done : List Json} {item : Json} {rest : List Json}
    (each : ∀ value ∈ rest, ∀ frame first,
      Takes ⟨frame :: stack, .value first⟩ (tokensOf value) ⟨frame :: stack, .after value⟩) :
    Takes ⟨.items done :: stack, .after item⟩ (separated .closeBracket false (rest.map tokensOf))
      ⟨stack, .after (.array (done.reverse ++ item :: rest))⟩ := by
  induction rest generalizing done item with
  | nil =>
    refine ⟨_, fun start => ?_, rfl⟩
    rw [← List.reverse_cons]
    rfl
  | cons next rest ih =>
    obtain ⟨here, others⟩ := List.forall_mem_cons.mp each
    have later : Takes ⟨.items (item :: done) :: stack, .after next⟩
        (separated .closeBracket false (rest.map tokensOf)) _ := ih others
    rw [List.reverse_cons, List.append_assoc, List.singleton_append] at later
    exact ⟨_, fun start => rfl, (here _ false).append later⟩

/-- Inside an object behind a value a reader takes the other members and closes the object. -/
theorem takes_members [Room] {done : Members} {name : Text} {value : Json} {rest : Members}
    (names : (Table.keys (done ++ (name, value) :: rest)).Nodup)
    (each : ∀ member ∈ rest, ∀ frame first,
      Takes ⟨frame :: stack, .value first⟩ (tokensOf member.2) ⟨frame :: stack, .after member.2⟩) :
    Takes ⟨.member done name :: stack, .after value⟩ (separated .closeBrace false (rest.map memberTokens))
      ⟨stack, .after (.object (done ++ (name, value) :: rest))⟩ := by
  induction rest generalizing done name value with
  | nil =>
    refine ⟨_, fun start => ?_, rfl⟩
    rw [← Table.put_of_nodup names]
    rfl
  | cons next rest ih =>
    obtain ⟨here, others⟩ := List.forall_mem_cons.mp each
    have cut : done ++ (name, value) :: next :: rest = done.put name value ++ next :: rest := by
      rw [Table.put_of_nodup names, List.append_assoc, List.singleton_append]
    rw [cut] at names ⊢
    exact ⟨_, fun start => rfl, _, fun start => rfl, _, fun start => rfl, (here _ false).append (ih names others)⟩

end

/-- A reader at a value takes the tokens of one and holds it. -/
theorem takes_inOrder [Room] {value : Json} (distinct : value.Distinct) (short : value.Short)
    {stack : List Frame}
    (room : stack.length + value.nesting ≤ Room.documents) (first : Bool) :
    Takes ⟨stack, .value first⟩ (tokensOf (inOrder value)) ⟨stack, .after (inOrder value)⟩ := by
  induction value using induction_parts generalizing stack first with
  | null | bool | float | string => exact ⟨_, fun start => rfl, rfl⟩
  | int n =>
    refine ⟨_, fun start => ?_, rfl⟩
    change (Numeral.value (integer n)).map _ = _
    rw [integer, value_ofInt (short n (List.mem_singleton_self n))]
    rfl
  | array items each =>
    rw [distinct_array_iff] at distinct
    rw [short_array_iff] at short
    rw [nesting] at room
    have parts : ∀ value ∈ items.map inOrder, ∀ frame first,
        Takes ⟨frame :: stack, .value first⟩ (tokensOf value) ⟨frame :: stack, .after value⟩ := by
      intro value member frame first
      obtain ⟨item, inside, rfl⟩ := List.mem_map.mp member
      have lower : item.nesting ≤ itemsNesting items := itemsNesting_le_iff.mp (Nat.le_refl _) item inside
      exact each item inside (distinct item inside) (short item inside)
        (by simp only [List.length_cons]; omega) first
    have enters (start : Nat) : Reader.step ⟨stack, .value first⟩ ⟨start, .openBracket⟩ =
        .ok ⟨.items [] :: stack, .value true⟩ := by
      have within : ¬ Room.documents ≤ stack.length := by omega
      simp [Reader.step, Reader.stepValue, Reader.enter, within, Except.map]
    rw [inOrder, itemsInOrder_eq, tokensOf, itemsTokens_eq]
    refine ⟨_, enters, ?_⟩
    cases values : items.map inOrder with
    | nil => exact ⟨_, fun start => rfl, rfl⟩
    | cons item rest =>
      rw [values] at parts
      obtain ⟨here, others⟩ := List.forall_mem_cons.mp parts
      exact (here _ true).append (takes_items others)
  | object members each =>
    rw [distinct_object_iff] at distinct
    rw [short_object_iff] at short
    rw [nesting] at room
    have names := nodup_keys_arranged distinct.1
    have parts : ∀ member ∈ Table.ascending (membersInOrder members), ∀ frame first,
        Takes ⟨frame :: stack, .value first⟩ (tokensOf member.2) ⟨frame :: stack, .after member.2⟩ := by
      refine forall_mem_arranged.mpr fun member inside frame first => ?_
      have lower : member.2.nesting ≤ membersNesting members :=
        membersNesting_le_iff.mp (Nat.le_refl _) member inside
      exact each member inside (distinct.2 member inside) (short member inside)
        (by simp only [List.length_cons]; omega) first
    have enters (start : Nat) : Reader.step ⟨stack, .value first⟩ ⟨start, .openBrace⟩ =
        .ok ⟨stack, .name [] true⟩ := by
      have within : ¬ Room.documents ≤ stack.length := by omega
      simp [Reader.step, Reader.stepValue, Reader.enter, within]
    rw [inOrder, tokensOf, membersTokens_eq]
    refine ⟨_, enters, ?_⟩
    cases values : Table.ascending (membersInOrder members) with
    | nil => exact ⟨_, fun start => rfl, rfl⟩
    | cons member rest =>
      rw [values] at parts names
      obtain ⟨here, others⟩ := List.forall_mem_cons.mp parts
      exact ⟨_, fun start => rfl, _, fun start => rfl, (here _ false).append (takes_members names others)⟩

end PolicyHost.Json
