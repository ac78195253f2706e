import ExpectFile.Proofs.Grammar.Embedding
import ExpectFile.Proofs.Grammar.Leading
import ExpectFile.Proofs.Grammar.Lexing

/-!
# Expressions are parsed alike

Level by level: each of the parsers for expressions agrees with itself on tokens that are alike, if
the parsers for what is inside of brackets agree. The parsers may be two, at different depths of
nesting, and this is what shows in the end that the depth does not matter.

* **`agree_atom`**, **`agree_primary`**, **`agree_bitOr`**, **`agree_expression`** — the levels.
* **`nestedAgree_exprAt`** — every category at two depths that suffice, by induction on the depth.
-/

namespace ExpectFile.Grammar

open TokenParser

/-- Two parsers for what is inside agree, and neither finds anything where a statement ends. -/
structure NestedAgree (l : Nat) (nested nested' : Nested) : Prop where
  agree : ∀ kind r due, Agree due due r l (nested kind) (nested' kind)
  fails : ∀ kind cursor, cursor.next.isInner = false → (nested kind).run cursor = none
  fails' : ∀ kind cursor, cursor.next.isInner = false → (nested' kind).run cursor = none

variable {α : Type} {due left : List String} {r l : Nat} {nested nested' : Nested}

/-- Parsers that agree up to a bound agree up to a smaller one. -/
theorem NestedAgree.mono {l' : Nat} (h : NestedAgree l nested nested') (hl : l' ≤ l) :
    NestedAgree l' nested nested' where
  agree kind r due := (h.agree kind r due).mono (Nat.le_refl r) hl
  fails := h.fails
  fails' := h.fails'

/-- Parsers that both fail agree. -/
theorem AgreeAt.of_none {kind : Token.Kind} {parser parser' : TokenParser α}
    (h : ∀ cursor, cursor.next = kind → parser.run cursor = none)
    (h' : ∀ cursor, cursor.next = kind → parser'.run cursor = none) :
    AgreeAt kind due left r l parser parser' := by
  intro c c' hlike _ _ hnext
  rw [h c hnext, h' c' (hlike.next_eq ▸ hnext)]
  exact .none

/-! ## Tokens -/

/-- A name is taken as it is spelled, or nothing is found in either list. -/
theorem agree_rawName : Agree due due r l rawName rawName := by
  unfold rawName
  refine .peek fun kind => ?_
  cases kind with
  | name raw => exact .taking rfl (.pure raw)
  | _ => exact Agree.failure.atNext _

/-- What a name is read as depends on its spelling only. -/
theorem agree_nameToken : Agree due due r l nameToken nameToken :=
  agree_rawName.bind fun raw => .pure (identifier raw)

/-- Whether a token is a name. -/
def Token.Kind.isName : Token.Kind → Bool
  | .name _ => true
  | _ => false

/-- Whether a name is next is seen without taking it. -/
theorem run_atName_eq
    (cursor : Cursor) : atName.run cursor = some (cursor.next.isName, cursor) := by
  unfold atName
  rw [run_bind_of (run_peek cursor)]
  cases cursor.next <;> rfl

/-- So the answer is the same in both lists. -/
theorem agree_atName : Agree due due r l atName atName := by
  unfold atName
  refine .peek fun kind => ?_
  cases kind <;> exact (Agree.pure _).atNext _

/-! ## Operators from the left -/

section

variable {operand operand' : TokenParser Expr}

/-- Operators of one level are parsed alike behind their first operand. None of them is a bracket,
so what is due stays due. Induction on the fuel, which exceeds the tokens that the statement goes on
for. -/
theorem agree_leftChain {level : Level} {symbols : List String}
    (hsymbols : ∀ symbol ∈ symbols, leavesBrackets symbol = true)
    (h : Agree due due r l operand operand')
    {fuel fuel' : Nat} (hfuel : r < fuel) (hfuel' : r < fuel') (left : Expr) :
    Agree due due r l (leftChain level symbols operand fuel left)
      (leftChain level symbols operand' fuel' left) := by
  induction fuel generalizing r fuel' left with
  | zero => omega
  | succ fuel ih =>
    cases fuel' with
    | zero => omega
    | succ fuel' =>
      unfold leftChain
      refine .peek fun kind => ?_
      cases kind with
      | operator symbol =>
        refine .ite (fun hmem => ?_) fun _ => (Agree.pure left).atNext _
        have hturn := turn_of_leavesBrackets (hsymbols symbol (List.contains_iff_mem.mp hmem)) due
        have hless : Agree due due (r - 1) l operand operand' :=
          h.mono (Nat.sub_le r 1) (Nat.le_refl l)
        refine .advance hturn fun hr _ => Agree.mono ?_ (Nat.le_refl _) (Nat.sub_le l _)
        exact hless.bind fun right => ih hless (by omega) (by omega) _
      | _ => exact (Agree.pure left).atNext _

/-- So is the whole level, as its operands are. -/
theorem agree_leftLevel (level : Level) (symbols : List String)
    (hsymbols : ∀ symbol ∈ symbols, leavesBrackets symbol = true)
    (h : Agree due due r l operand operand') :
    Agree due due r l (leftLevel level symbols operand) (leftLevel level symbols operand') := by
  unfold leftLevel
  refine h.bind fun first => .peek fun kind => ?_
  cases kind with
  | operator symbol =>
    refine (Agree.ite (fun _ => ?_) fun _ => .pure first).atNext _
    exact .remaining fun r' hr m m' hm hm' =>
      agree_leftChain hsymbols (h.mono hr (Nat.le_refl l)) hm hm' first
  | _ => exact (Agree.pure first).atNext _

/-- Operands behind a word that stands between them are parsed alike, by induction on the fuel. -/
theorem agree_keywordChain {word : String} (h : Agree due due r l operand operand')
    {fuel fuel' : Nat}
    (hfuel : r < fuel) (hfuel' : r < fuel') :
    Agree due due r l (keywordChain word operand fuel) (keywordChain word operand' fuel') := by
  induction fuel generalizing r fuel' with
  | zero => omega
  | succ fuel ih =>
    cases fuel' with
    | zero => omega
    | succ fuel' =>
      unfold keywordChain
      have hless : Agree due due (r - 1) l operand operand' :=
        h.mono (Nat.sub_le r 1) (Nat.le_refl l)
      refine .nextFound rfl (fun hr => ?_) (.pure [])
      exact hless.bind fun next => (ih hless (by omega) (by omega)).bind fun others => .pure _

/-- So is a whole level of operators that are words. -/
theorem agree_keywordLevel {level : Level} {word : String}
    (h : Agree due due r l operand operand') :
    Agree due due r l (keywordLevel level word operand) (keywordLevel level word operand') := by
  unfold keywordLevel
  refine h.bind fun first => .peek fun kind =>
    (Agree.ite (fun _ => ?_) fun _ => .pure first).atNext _
  exact .remaining fun r' hr m m' hm hm' =>
    (agree_keywordChain (h.mono hr (Nat.le_refl l)) hm hm').bind fun others => .pure _

end

/-! ## Pieces inside brackets -/

/-- An item of a list is parsed alike, with a star in front or without one. -/
theorem agree_starNamed (h : NestedAgree l nested nested') :
    Agree due due r l (starNamed nested) (starNamed nested') := by
  unfold starNamed
  exact .ifFound rfl ((h.agree _ r _).bind fun value => .pure _) (h.agree _ r _)

/-- What the values of a loop are assigned to is parsed alike, and whether it can be assigned to is
the same. -/
theorem agree_loopTargets (h : NestedAgree l nested nested') :
    Agree due due r l (loopTargets nested) (loopTargets nested') := by
  unfold loopTargets
  refine .items ?_ fun found => .ite (fun _ => .pure _) fun _ => .failure
  exact .ifFound rfl ((h.agree _ r _).bind fun value => .pure _) (h.agree _ r _)

/-- The conditions of a clause are parsed alike. Each of them takes a word, so there are fewer than
the fuel. -/
theorem agree_clauseConditions (h : NestedAgree l nested nested') {fuel fuel' : Nat}
    (hfuel : r < fuel) (hfuel' : r < fuel') :
    Agree due due r l (clauseConditions nested fuel) (clauseConditions nested' fuel') := by
  induction fuel generalizing r fuel' with
  | zero => omega
  | succ fuel ih =>
    cases fuel' with
    | zero => omega
    | succ fuel' =>
      unfold clauseConditions
      refine .nextFound rfl (fun hr => ?_) (.pure [])
      exact (h.agree _ _ _).bind fun condition =>
        (ih (by omega) (by omega)).bind fun others => .pure _

/-- Whether a clause begins here is the same in both lists. The second token counts only where the
first one is inside of the statement, and there the two lists have the same one. -/
theorem agree_atClause : Agree due due r l atClause atClause := by
  unfold atClause
  refine .peek fun kind => .peekSecond (fun _ second => ((Agree.pure _).atNext kind).pair second)
    fun hout second second' => ?_
  have hword : ∀ word, kind ≠ .keyword word := by
    rintro word rfl
    exact absurd hout nofun
  simp only [hword, decide_false, Bool.false_and, Bool.or_false]
  exact (Agree.pure _).atNext kind

/-- The clauses of a comprehension are parsed alike, those that are asynchronous and those that are
not. -/
theorem agree_clauses (h : NestedAgree l nested nested') {fuel fuel' : Nat}
    (hfuel : r < fuel) (hfuel' : r < fuel') :
    Agree due due r l (clauses nested fuel) (clauses nested' fuel') := by
  induction fuel generalizing r fuel' with
  | zero => omega
  | succ fuel ih =>
    cases fuel' with
    | zero => omega
    | succ fuel' =>
      unfold clauses
      refine agree_atClause.bind fun isClause => .ite (fun _ => ?_) fun _ => .pure []
      refine .found rfl (fun _ _ => Agree.mono ?_ (Nat.sub_le r 1) (Nat.sub_le l _)) ?_
      all_goals
        refine .behind rfl fun hr _ => Agree.mono ?_ (Nat.le_refl _) (Nat.sub_le l _)
        refine (agree_loopTargets h).bind fun target => ?_
        refine (Agree.expect rfl).bind fun _ => (h.agree _ _ _).bind fun source => ?_
        refine .looping (fun _ _ _ _ hm hm' => agree_clauseConditions h hm hm') fun conditions => ?_
        exact (ih (by omega) (by omega)).bind fun others => .pure _

/-- In either list there is a clause, or nothing is found. -/
theorem agree_someClauses (h : NestedAgree l nested nested') :
    Agree due due r l (someClauses nested) (someClauses nested') := by
  unfold someClauses
  refine .looping (fun _ _ _ _ hm hm' => agree_clauses h hm hm') fun found => ?_
  cases found with
  | nil => exact .failure
  | cons clause others => exact .pure _

/-- A closing operator, and a value behind it. -/
theorem agree_closing {symbol : String} (hturn : (Token.Kind.operator symbol).turn due = some left)
    (a : α) :
    Agree due left r l (operator symbol >>= fun _ => pure a)
      (operator symbol >>= fun _ => pure a) :=
  (Agree.expect hturn).bind fun _ => .pure a

/-- Clauses are parsed alike with the bracket behind them, which closes the innermost one that is
due. -/
theorem agree_comprehension (h : NestedAgree l nested nested') {symbol : String}
    (hturn : (Token.Kind.operator symbol).turn due = some left) (value : List Expr → α) :
    Agree due left r l
      (someClauses nested >>= fun found => operator symbol >>= fun _ => pure (value found))
      (someClauses nested' >>= fun found => operator symbol >>= fun _ => pure (value found)) :=
  (agree_someClauses h).bind fun _ => agree_closing hturn _

/-- More items, if one can begin here. -/
theorem agree_moreItems {β : Type} {starts : Token.Kind → Bool} {item item' : TokenParser Expr}
    (h : Agree due due r l item item') {f f' : List Expr → TokenParser β}
    (hf : ∀ others, Agree due left r l (f others) (f' others)) :
    Agree due left r l
      (peek >>= fun next => if starts next = true then
          remaining >>= fun fuel => (Prod.fst <$> commaItems starts item fuel) >>= f
        else pure [] >>= f)
      (peek >>= fun next => if starts next = true then
          remaining >>= fun fuel => (Prod.fst <$> commaItems starts item' fuel) >>= f'
        else pure [] >>= f') := by
  refine .peek fun next => (Agree.ite (fun _ => ?_) fun _ => ?_).atNext next
  · exact .looping (fun _ hr _ _ hm hm' => ((h.mono hr (Nat.le_refl l)).commaItems hm hm').map _) hf
  · exact (Agree.pure _).bind hf

/-- What is in parentheses is parsed alike: nothing, a generator, one value or several. The
parenthesis that is due is closed behind it. -/
theorem agree_parenthesized (h : NestedAgree l nested nested') :
    Agree (")" :: due) due r l (parenthesized nested) (parenthesized nested') := by
  unfold parenthesized
  refine .ifFound rfl (.pure _) (.peek fun next =>
    (Agree.ite (fun _ => ?_) fun _ => ?_).atNext next)
  · exact (h.agree _ r _).bind fun value => agree_closing rfl _
  · refine (agree_starNamed h).bind fun first => .ifFound rfl ?_
      (.ite (fun _ => .failure) fun _ => ?_)
    · exact agree_moreItems (agree_starNamed h) fun others => agree_closing rfl _
    · refine agree_atClause.bind fun isClause => .ite (fun _ => ?_) fun _ => agree_closing rfl _
      exact agree_comprehension h rfl _

/-- So is what is in square brackets, a list or a comprehension. -/
theorem agree_bracketed (h : NestedAgree l nested nested') :
    Agree ("]" :: due) due r l (bracketed nested) (bracketed nested') := by
  unfold bracketed
  refine .ifFound rfl (.pure _) (.items (agree_starNamed h) fun found => ?_)
  obtain ⟨items, trailing⟩ := found
  dsimp only
  split
  · exact agree_closing rfl _
  · refine agree_atClause.bind fun isClause => .ite (fun _ => ?_) fun _ => agree_closing rfl _
    exact agree_comprehension h rfl _
  · exact agree_closing rfl _

/-- An entry of a table is parsed alike: a key with its value, or a table that is unpacked. -/
theorem agree_tableEntry (h : NestedAgree l nested nested') :
    Agree due due r l (tableEntry nested) (tableEntry nested') := by
  unfold tableEntry
  refine .ifFound rfl ((h.agree _ r _).bind fun value => .pure _)
    ((h.agree _ r _).bind fun key => ?_)
  exact (Agree.expect rfl).bind fun _ => (h.agree _ r _).bind fun value => .pure _

/-- So is the rest of a table behind its first entry. -/
theorem agree_tableRest (h : NestedAgree l nested nested') (first : Expr) :
    Agree ("\x7d" :: due) due r l (tableRest nested first) (tableRest nested' first) := by
  unfold tableRest
  refine .ifFound rfl ?_ (agree_closing rfl _)
  exact agree_moreItems (agree_tableEntry h) fun others => agree_closing rfl _

/-- So is the rest of a set behind its first item. -/
theorem agree_setRest (h : NestedAgree l nested nested') (first : Expr) :
    Agree ("\x7d" :: due) due r l (setRest nested first) (setRest nested' first) := by
  unfold setRest
  refine .ifFound rfl ?_ (agree_closing rfl _)
  exact agree_moreItems (agree_starNamed h) fun others => agree_closing rfl _

/-- What is in braces is parsed alike. Whether it is a table or a set shows at the colon behind the
first item, or its absence. -/
theorem agree_braced (h : NestedAgree l nested nested') :
    Agree ("\x7d" :: due) due r l (braced nested) (braced nested') := by
  unfold braced
  refine .ifFound rfl (.pure _) (.peek fun next =>
    (Agree.ite (fun _ => ?_) fun _ => ?_).atNext next)
  · exact (agree_tableEntry h).bind fun first => agree_tableRest h first
  · refine .peek fun next => .ite (fun _ => Agree.atNext ?_ next) fun _ => ?_
    · exact (agree_starNamed h).bind fun first => agree_setRest h first
    refine .peekSecond (fun _ second => AgreeAt.pair (Agree.atNext ?_ next) second)
      fun hout second second' => ?_
    · refine .ite (fun _ => (h.agree _ r _).bind fun first => ?_)
        fun _ => (h.agree _ r _).bind fun first => ?_
      all_goals
        refine .peek fun next => .ite (fun hcolon => ?_) fun _ => Agree.atNext ?_ next
        · rw [Bool.and_eq_true, decide_eq_true_eq] at hcolon
          obtain ⟨-, rfl⟩ := hcolon
          refine .taking rfl ((h.agree _ r _).bind fun value => agree_atClause.bind fun _ => ?_)
          exact .ite (fun _ => agree_comprehension h rfl _) fun _ => agree_tableRest h _
        · exact agree_atClause.bind fun _ =>
            .ite (fun _ => agree_comprehension h rfl _) fun _ => agree_setRest h first
    · -- where the statement ends, there is no item, and the second token does not matter
      dsimp only
      refine .of_none (fun cursor hnext => ?_) fun cursor hnext => ?_
      · split <;> exact run_bind_eq_none (h.fails _ cursor (hnext ▸ hout)) _
      · split <;> exact run_bind_eq_none (h.fails' _ cursor (hnext ▸ hout)) _

/-! ## Calls and subscripts -/

/-- A named argument is seen at a name and the equals sign behind it, without taking either. -/
theorem run_atNamedArgument_eq (cursor : Cursor) : atNamedArgument.run cursor
    = some (cursor.next.isName && decide (cursor.second = .operator "="), cursor) := by
  unfold atNamedArgument
  rw [run_bind_of (run_atName_eq cursor), run_bind_of (run_peekSecond cursor)]
  rfl

/-- Whether a named argument begins here, with what is known of the next tokens if so. -/
theorem AgreeAt.atNamedArgument {β : Type} {kind : Token.Kind} {f f' : Bool → TokenParser β}
    (htrue : ∀ raw, kind = .name raw →
      AgreeAtPair kind (.operator "=") due left r l (f true) (f' true))
    (hfalse : AgreeAt kind due left r l (f false) (f' false)) :
    AgreeAt kind due left r l (atNamedArgument >>= f) (Grammar.atNamedArgument >>= f') := by
  intro c c' hlike hroom hload hnext
  rw [run_bind_of (run_atNamedArgument_eq c), run_bind_of (run_atNamedArgument_eq c'),
    ← hlike.next_eq]
  cases hname : c.next with
  | name raw =>
    rw [← hlike.second_eq (by rw [hname]; rfl)]
    by_cases hsecond : c.second = .operator "="
    · simp only [Token.Kind.isName, hsecond, decide_true, Bool.and_self]
      exact htrue raw (hnext.symm.trans hname) c c' hlike hroom hload hnext hsecond
    · simp only [hsecond, decide_false, Bool.and_false]
      exact hfalse c c' hlike hroom hload hnext
  | _ => exact hfalse c c' hlike hroom hload hnext

/-- A name, with the next token still known behind it. -/
theorem AgreeAtPair.nameToken {β : Type} {raw : List Char} {second : Token.Kind}
    {f f' : String → TokenParser β}
    (h : AgreeAt second due left r l (f (identifier raw)) (f' (identifier raw))) :
    AgreeAtPair (.name raw) second due left r l (nameToken >>= f) (Grammar.nameToken >>= f') := by
  unfold Grammar.nameToken rawName
  simp only [bind_assoc]
  refine .peek ?_
  simp only [bind_assoc, pure_bind]
  exact .advance rfl fun _ _ => h.mono (Nat.sub_le r 1) (Nat.sub_le l _)

/-- What follows an argument. -/
theorem agree_moreArguments
    {arguments arguments' : ArgumentStage → TokenParser (List Expr × List Expr)}
    (h : 0 < r → ∀ stage, Agree (")" :: due) due (r - 1) l (arguments stage) (arguments' stage))
    (found : List Expr × List Expr × ArgumentStage) :
    Agree (")" :: due) due r l
      (match found with
        | (positional, named, stage) => do
          if ← foundOperator "," then
            let (others, named') ← arguments stage
            return (positional ++ others, named ++ named')
          else
            operator ")"
            return (positional, named))
      (match found with
        | (positional, named, stage) => do
          if ← foundOperator "," then
            let (others, named') ← arguments' stage
            return (positional ++ others, named ++ named')
          else
            operator ")"
            return (positional, named)) := by
  obtain ⟨positional, named, stage⟩ := found
  exact .nextFound rfl (fun hr => (h hr stage).bind fun others => .pure _) (agree_closing rfl _)

/-- The arguments of a call are parsed alike up to the closing parenthesis, by induction on the
fuel. The stage says which of them may still come, and goes along. -/
theorem agree_argumentsFrom (h : NestedAgree l nested nested') {fuel fuel' : Nat}
    (hfuel : r < fuel) (hfuel' : r < fuel') (stage : ArgumentStage):
    Agree (")" :: due) due r l (argumentsFrom nested fuel stage)
      (argumentsFrom nested' fuel' stage) := by
  induction fuel generalizing r fuel' stage with
  | zero => omega
  | succ fuel ih =>
    cases fuel' with
    | zero => omega
    | succ fuel' =>
      unfold argumentsFrom
      have hothers : 0 < r → ∀ stage, Agree (")" :: due) due (r - 1) l
          (argumentsFrom nested fuel stage) (argumentsFrom nested' fuel' stage) :=
        fun hr => ih (by omega) (by omega)
      have hmore := agree_moreArguments hothers
      refine .ifFound rfl (.pure _) (.found rfl (fun _ _ => Agree.mono ?_ (Nat.sub_le r 1)
        (Nat.sub_le l _)) ?_)
      · refine .peek fun next => .atNamedArgument
          (fun raw _ => (Agree.atNext ?_ _).pair _) (Agree.atNext ?_ _)
        all_goals
          dsimp only
          refine .ite (fun _ => ?_) fun hne => absurd rfl hne
          exact (h.agree _ r _).bind fun value => (Agree.pure _).bind hmore
      -- without a star in front, a name may be that of the argument
      · refine .peek fun next => .atNamedArgument (fun raw hname => ?_) ?_
        · dsimp only
          refine .ite (absurd · Bool.false_ne_true) fun _ => .ite (fun hstar => ?_) fun _ => ?_
          · cases hname.symm.trans hstar
          refine .ite (fun _ => ?_) fun hne => absurd rfl hne
          subst hname
          refine .nameToken (.taking rfl ?_)
          exact (h.agree _ r _).bind fun value => (Agree.pure _).bind hmore
        · dsimp only
          refine .ite (absurd · Bool.false_ne_true) fun _ => .ite (fun hstar => ?_) fun _ =>
            .ite (absurd · Bool.false_ne_true) fun _ => Agree.atNext ?_ next
          · subst hstar
            refine .ite (fun _ => Agree.failing.atNext _) fun _ => .taking rfl ?_
            exact (h.agree _ r _).bind fun value => (Agree.pure _).bind hmore
          · refine .ite (fun _ => .failing) fun _ => ?_
            exact (h.agree _ r _).bind fun value => (Agree.pure _).bind hmore

/-- So are those of a whole call, whose only argument may be a generator. -/
theorem agree_callArguments (h : NestedAgree l nested nested') :
    Agree (")" :: due) due r l (callArguments nested) (callArguments nested') := by
  unfold callArguments
  refine .peek fun next => .atNamedArgument (fun raw _ => (Agree.atNext ?_ _).pair _)
    (Agree.atNext ?_ _)
  all_goals
    refine .ite (fun _ => ?_) fun _ => ?_
    · refine (h.agree _ r _).bind fun first => agree_atClause.bind fun isClause => ?_
      refine .ite (fun _ => agree_comprehension h rfl _) fun _ => .ifFound rfl ?_
        (agree_closing rfl _)
      exact .looping (fun _ _ _ _ hm hm' => agree_argumentsFrom h hm hm' _) fun others => .pure _
    · exact .remaining fun _ _ _ _ hm hm' => agree_argumentsFrom h hm hm' _

/-- A slice behind its lower bound. -/
theorem agree_slice {bound bound' : TokenParser (Option Expr)} (h : Agree due due r l bound bound')
    (lower : Option Expr) :
    Agree due due r l
      (do
        operator ":"
        let upper ← bound
        if ← foundOperator ":" then
          let step ← bound
          return Expr.slice lower upper step
        else return Expr.slice lower upper none)
      (do
        operator ":"
        let upper ← bound'
        if ← foundOperator ":" then
          let step ← bound'
          return Expr.slice lower upper step
        else return Expr.slice lower upper none) := by
  refine (Agree.expect rfl).bind fun _ => h.bind fun upper => ?_
  exact .ifFound rfl (h.bind fun step => .pure _) (.pure _)

/-- An item of a subscript is parsed alike: a value, or a slice, whose bounds may be missing. -/
theorem agree_sliceItem (h : NestedAgree l nested nested') :
    Agree due due r l (sliceItem nested) (sliceItem nested') := by
  unfold sliceItem
  dsimp only
  have hslice := agree_slice (.peek fun next =>
    (Agree.ite (p := startsExpression next = true)
      (fun _ => (h.agree .expression r due).bind fun value => .pure (some value))
      fun _ => .pure none).atNext next)
  refine .peek fun next => .ite (fun _ => (hslice none).atNext next) fun _ => ?_
  refine .peekSecond (fun _ second => AgreeAt.pair (Agree.atNext ?_ next) second)
    fun hout second second' => ?_
  · refine .ite (fun _ => h.agree _ r _) fun _ => (h.agree _ r _).bind fun value => ?_
    exact .peek fun next => (Agree.ite (fun _ => hslice _) fun _ => .pure _).atNext next
  · refine .of_none (fun cursor hnext => ?_) fun cursor hnext => ?_
    · split
      · exact h.fails _ cursor (hnext ▸ hout)
      · exact run_bind_eq_none (h.fails _ cursor (hnext ▸ hout)) _
    · split
      · exact h.fails' _ cursor (hnext ▸ hout)
      · exact run_bind_eq_none (h.fails' _ cursor (hnext ▸ hout)) _

/-- So are all the items of a subscript, up to the closing bracket. -/
theorem agree_subscriptIndex (h : NestedAgree l nested nested') :
    Agree ("]" :: due) due r l (subscriptIndex nested) (subscriptIndex nested') := by
  unfold subscriptIndex
  dsimp only
  refine .items ?_ fun items => agree_closing rfl _
  exact .ifFound rfl ((h.agree _ r _).bind fun value => .pure _) (agree_sliceItem h)

/-! ## Atoms -/

/-- Literals next to each other are the same ones in both lists. What each of them counts for is
within the bound, as they are tokens of the statement. -/
theorem Agree.adjacentLiterals {β : Type} {f f' : List RawLiteral → TokenParser β}
    (hf : ∀ literals, (∀ content ∈ literals, (Token.Kind.literal content).weight ≤ l) →
      Agree due left r l (f literals) (f' literals)) {fuel fuel' : Nat} (hfuel : r < fuel)
    (hfuel' : r < fuel') :
    Agree due left r l (adjacentLiterals fuel >>= f) (Grammar.adjacentLiterals fuel' >>= f') := by
  induction fuel generalizing r l fuel' f f' with
  | zero => omega
  | succ fuel ih =>
    cases fuel' with
    | zero => omega
    | succ fuel' =>
      unfold Grammar.adjacentLiterals
      simp only [bind_assoc]
      refine .peek fun kind => ?_
      cases kind with
      | literal content =>
        simp only [bind_assoc, pure_bind]
        refine .advance rfl fun hr hl => ih ?_ (by omega) (by omega)
        intro literals hweight
        refine (hf _ ?_).mono (Nat.sub_le r 1) (Nat.sub_le l _)
        intro other hmem
        rcases List.mem_cons.mp hmem with rfl | hmem
        · exact hl
        · exact Nat.le_trans (hweight other hmem) (Nat.sub_le l _)
      | _ =>
        simp only [pure_bind]
        exact (hf [] (by simp)).atNext _

/-- The value of a text inside a literal depends on how expressions no longer than it are parsed. -/
theorem embedded_congr (h : NestedAgree l nested nested') {source : List Char}
    (hlength : source.length + 2 ≤ l) : embedded nested source = embedded nested' source := by
  unfold embedded
  refine Option.bind_congr fun tokens htokens => ?_
  have hload := load_le_of_tokens? htokens
  have hlike := Like.refl_of_mem (lexed_of_tokens? htokens).exists_finish
  have hroom : load tokens ≤ l := by
    simp only [List.length_cons, List.length_append, List.length_nil] at hload
    omega
  have hsame := h.agree .stars (room tokens) [] ⟨tokens, ⟨1, 0⟩⟩ ⟨tokens, ⟨1, 0⟩⟩ hlike
    (Nat.le_refl _) hroom
  revert hsame
  generalize (nested .stars).run _ = x
  generalize (nested' .stars).run _ = x'
  intro hsame
  cases hsame <;> rfl

/-- **Atoms are parsed alike.** What is behind a bracket or inside of a literal counts for less than
the whole. -/
theorem agree_atom (h : NestedAgree (l - 1) nested nested') :
    Agree due due r l (atom nested) (atom nested') := by
  unfold atom
  refine .peek fun kind => ?_
  split
  · exact .taking rfl (.pure _)
  · exact .taking rfl (.pure _)
  · refine Agree.atNext (.remaining fun r' hr m m' hm hm' => .adjacentLiterals ?_ hm hm') _
    intro literals hweight
    -- the expressions inside of the literals are shorter than the literals
    have hvalue :
        literalsExpr (embedded nested) literals = literalsExpr (embedded nested') literals :=
      literalsExpr_congr fun literal hmem source hlength => by
        have hlight := hweight literal hmem
        simp only [Token.Kind.weight] at hlight
        exact embedded_congr h (by omega)
    rw [hvalue]
    cases literalsExpr (embedded nested') literals with
    | none => exact .failure
    | some value => exact .pure value
  · exact .taking rfl (.pure _)
  · exact .taking rfl (.pure _)
  · exact .taking rfl (.pure _)
  · exact .taking rfl (.pure _)
  · exact .advance rfl fun _ _ => agree_parenthesized h
  · exact .advance rfl fun _ _ => agree_bracketed h
  · exact .advance rfl fun _ _ => agree_braced h
  · exact Agree.failure.atNext _

/-! ## Operators -/

/-- Attributes, calls and subscripts behind a value are parsed alike, by induction on the fuel. -/
theorem agree_trailers (h : NestedAgree (l - 1) nested nested') {fuel fuel' : Nat}
    (hfuel : r < fuel) (hfuel' : r < fuel') (value : Expr) :
    Agree due due r l (trailers nested fuel value) (trailers nested' fuel' value) := by
  induction fuel generalizing r l fuel' value with
  | zero => omega
  | succ fuel ih =>
    cases fuel' with
    | zero => omega
    | succ fuel' =>
      unfold trailers
      have hless : NestedAgree (l - 1 - 1) nested nested' := h.mono (Nat.sub_le _ 1)
      refine .whenFound rfl (fun hr _ => ?_) (.whenFound rfl (fun hr _ => ?_)
        (.whenFound rfl (fun hr _ => ?_) (.pure value)))
      · exact agree_nameToken.bind fun name => ih hless (by omega) (by omega) _
      · exact (agree_callArguments h).bind fun found => ih hless (by omega) (by omega) _
      · exact (agree_subscriptIndex h).bind fun index => ih hless (by omega) (by omega) _

/-- **Atoms are parsed alike with what is behind them**, where no operator stands in between. -/
theorem agree_primary (h : NestedAgree (l - 1) nested nested') :
    Agree due due r l (primary nested) (primary nested') := by
  unfold primary
  refine (agree_atom h).bind fun value => .peek fun kind => ?_
  split
  · refine (Agree.ite (fun _ => ?_) fun _ => .pure value).atNext _
    exact .remaining fun _ _ _ _ hm hm' => agree_trailers h hm hm' value
  · exact (Agree.pure value).atNext _

/-- A power is parsed alike. Its exponent is one level of nesting deeper. -/
theorem agree_power (h : NestedAgree (l - 1) nested nested') :
    Agree due due r l (power nested) (power nested') := by
  unfold power
  have hpower : ∀ base, Agree due due r l
      (foundOperator "**" >>= fun isPower => if isPower = true then
          nested .factor >>= fun exponent => pure (Expr.binary .power "**" base exponent)
        else pure base)
      (foundOperator "**" >>= fun isPower => if isPower = true then
          nested' .factor >>= fun exponent => pure (Expr.binary .power "**" base exponent)
        else pure base) := fun base =>
    .whenFound rfl (fun _ _ => (h.agree _ _ _).bind fun exponent => .pure _) (.pure base)
  refine .ifFound rfl ?_ ?_
  · exact (agree_primary h).bind fun value => (Agree.pure _).bind hpower
  · exact (agree_primary h).bind hpower

/-- So is a value with a sign in front, or without one. -/
theorem agree_factor (h : NestedAgree (l - 1) nested nested') :
    Agree due due r l (factor nested) (factor nested') := by
  unfold factor
  refine .peek fun kind => ?_
  split
  next symbol =>
    have hsigns : ∀ symbol ∈ ["+", "-", "~"], leavesBrackets symbol = true := by decide
    refine .ite (fun hmem => ?_) fun _ => (agree_power h).atNext _
    refine .advance (turn_of_leavesBrackets (hsigns symbol (List.contains_iff_mem.mp hmem)) due)
      fun _ _ => ?_
    exact (h.agree _ _ _).bind fun operand => .pure _
  next => exact (agree_power h).atNext _

/-- **The levels of arithmetic are parsed alike**, one on top of the other, from products to
disjunctions of bits. -/
theorem agree_bitOr (h : NestedAgree (l - 1) nested nested') :
    Agree due due r l (bitOr nested) (bitOr nested') := by
  have hproduct : Agree due due r l (leftLevel .product ["*", "/", "//", "%", "@"] (factor nested))
      (leftLevel .product ["*", "/", "//", "%", "@"] (factor nested')) :=
    agree_leftLevel _ _ (by decide) (agree_factor h)
  have hshift := agree_leftLevel .shift ["<<", ">>"] (by decide)
    (agree_leftLevel .sum ["+", "-"] (by decide) hproduct)
  have hbitAnd := agree_leftLevel .bitAnd ["&"] (by decide) hshift
  have hbitXor := agree_leftLevel .bitXor ["^"] (by decide) hbitAnd
  exact agree_leftLevel .bitOr ["|"] (by decide) hbitXor

/-- The operator of a comparison takes a token, if there is one. -/
theorem Agree.comparisonOperator {β : Type} {f f' : Option String → TokenParser β}
    (hsome : ∀ symbol, 0 < r → Agree due left (r - 1) l (f (some symbol)) (f' (some symbol)))
    (hnone : Agree due left r l (f none) (f' none)) :
    Agree due left r l (comparisonOperator >>= f) (Grammar.comparisonOperator >>= f') := by
  unfold Grammar.comparisonOperator
  simp only [bind_assoc]
  have hsymbols : ∀ symbol ∈ ["==", "!=", "<=", "<", ">=", ">"], leavesBrackets symbol = true := by
    decide
  have hone : ∀ {kind : Token.Kind} (symbol : String), kind.turn due = some due →
      AgreeAt kind due left r l (TokenParser.advance >>= fun _ => Pure.pure (some symbol) >>= f)
        (TokenParser.advance >>= fun _ => Pure.pure (some symbol) >>= f') := fun symbol hturn =>
    .advance hturn fun hr _ => (hsome symbol hr).mono (Nat.le_refl _) (Nat.sub_le l _)
  have htwo : ∀ {kind second : Token.Kind} (symbol : String), kind.turn due = some due →
      second.turn due = some due → AgreeAtPair kind second due left r l
        (TokenParser.advance >>= fun _ => TokenParser.advance >>= fun _ =>
          Pure.pure (some symbol) >>= f)
        (TokenParser.advance >>= fun _ => TokenParser.advance >>= fun _ =>
          Pure.pure (some symbol) >>= f') :=
    fun symbol hturn hturn' => .advance hturn fun hr _ => .advance hturn' fun _ _ =>
      (hsome symbol hr).mono (Nat.sub_le _ 1) (Nat.le_trans (Nat.sub_le _ _) (Nat.sub_le l _))
  refine .peek fun kind => .peekSecond (fun hinner second => ?_) fun hout second second' => ?_
  -- inside of the statement the next two tokens have the same kinds in both lists
  · clear hinner
    split
    next symbol =>
      simp only [apply_ite (· >>= f), apply_ite (· >>= f'), bind_assoc]
      refine AgreeAt.pair (.ite (fun hmem => ?_) fun _ => hnone.atNext _) _
      exact hone symbol (turn_of_leavesBrackets
        (hsymbols symbol (List.contains_iff_mem.mp hmem)) due)
    next => simpa only [bind_assoc] using htwo "not in" rfl rfl
    next => simpa only [bind_assoc] using (hone "in" rfl).pair _
    next => simpa only [bind_assoc] using htwo "is not" rfl rfl
    next => simpa only [bind_assoc] using (hone "is" rfl).pair _
    next => exact (hnone.atNext _).pair _
  -- the next token ends the statement, so there is no operator; what is behind it may differ
  · cases kind with
    | operator symbol =>
      have hstop : symbol = ";" := by simpa [Token.Kind.isInner] using hout
      subst hstop
      exact hnone.atNext _
    | newline | indent | dedent | finish => exact hnone.atNext _
    | _ => cases hout

/-- Comparisons behind the first operand are parsed alike, by induction on the fuel. -/
theorem agree_comparisonChain {operand operand' : TokenParser Expr}
    (h : Agree due due r l operand operand') {fuel fuel' : Nat} (hfuel : r < fuel)
    (hfuel' : r < fuel') :
    Agree due due r l (comparisonChain operand fuel) (comparisonChain operand' fuel') := by
  induction fuel generalizing r fuel' with
  | zero => omega
  | succ fuel ih =>
    cases fuel' with
    | zero => omega
    | succ fuel' =>
      unfold comparisonChain
      have hless : Agree due due (r - 1) l operand operand' :=
        h.mono (Nat.sub_le r 1) (Nat.le_refl l)
      refine .comparisonOperator (fun symbol hr => ?_) (.pure [])
      exact hless.bind fun next => (ih hless (by omega) (by omega)).bind fun others => .pure _

/-- So is a whole comparison, or an operand alone. -/
theorem agree_comparison (h : NestedAgree (l - 1) nested nested') :
    Agree due due r l (comparison nested) (comparison nested') := by
  unfold comparison
  refine (agree_bitOr h).bind fun first => .comparisonOperator (fun symbol hr => ?_) (.pure first)
  refine (agree_bitOr h).bind fun next => .looping (fun _ _ _ _ hm hm' => ?_) fun others => .pure _
  exact agree_comparisonChain (agree_bitOr h) hm hm'

/-- Negations are parsed alike. -/
theorem agree_inversion (h : NestedAgree (l - 1) nested nested') :
    Agree due due r l (inversion nested) (inversion nested') := by
  unfold inversion
  exact .whenFound rfl (fun _ _ => (h.agree _ _ _).bind fun operand => .pure _) (agree_comparison h)

/-- So are conjunctions, and disjunctions of them. -/
theorem agree_disjunction (h : NestedAgree (l - 1) nested nested') :
    Agree due due r l (disjunction nested) (disjunction nested') :=
  agree_keywordLevel (agree_keywordLevel (agree_inversion h))

/-! ## Functions -/

/-- The annotation of a parameter is parsed alike, where one is allowed. -/
theorem agree_parameterType (h : NestedAgree l nested nested') (annotated starAllowed : Bool) :
    Agree due due r l ( annotation nested annotated starAllowed)
      ( annotation nested' annotated starAllowed) := by
  unfold annotation
  refine .ite (fun _ => .pure ()) fun _ => .ifFound rfl (.peek fun next => ?_) (.pure ())
  refine .ite (fun hstar => ?_) fun _ => ?_
  · rw [Bool.and_eq_true, decide_eq_true_eq] at hstar
    obtain ⟨-, rfl⟩ := hstar
    exact .taking rfl ((h.agree _ r _).bind fun _ => .pure ())
  · exact ((h.agree _ r _).bind fun _ => .pure ()).atNext next

/-- A parameter is parsed alike. What was seen of those in front decides whether it is allowed, and
is the same for both lists. -/
theorem agree_parameter (h : NestedAgree l nested nested') (annotated : Bool)
    (seen : ParametersSeen) :
    Agree due due r l (parameter nested annotated seen) (parameter nested' annotated seen) := by
  unfold parameter
  refine .ifFound rfl (.ite (fun _ => .failing) fun _ => ?_) (.ifFound rfl (.ite (fun _ => .failing)
    fun _ => ?_) (.ifFound rfl (.ite (fun _ => .failing) fun _ => .pure _) ?_))
  · exact agree_nameToken.bind fun name => (agree_parameterType h _ _).bind fun _ => .pure _
  · refine agree_atName.bind fun isName => .ite (fun _ => ?_) fun _ => .pure _
    exact agree_nameToken.bind fun name => (agree_parameterType h _ _).bind fun _ => .pure _
  · refine agree_nameToken.bind fun name => (agree_parameterType h _ _).bind fun _ => ?_
    refine .ifFound rfl ((h.agree _ r _).bind fun fallback => .pure _) ?_
    exact .ite (fun _ => .failure) fun _ => .pure _

/-- So are parameters up to what closes the list of them, by induction on the fuel. -/
theorem agree_parametersFrom (h : NestedAgree l nested nested') (annotated : Bool)
    (closing : String) {fuel fuel' : Nat} (hfuel : r < fuel) (hfuel' : r < fuel')
    (seen : ParametersSeen) :
    Agree due due r l (parametersFrom nested annotated closing fuel seen)
      (parametersFrom nested' annotated closing fuel' seen) := by
  induction fuel generalizing r fuel' seen with
  | zero => omega
  | succ fuel ih =>
    cases fuel' with
    | zero => omega
    | succ fuel' =>
      unfold parametersFrom
      refine .peek fun next => (Agree.ite (fun _ => ?_) fun _ => ?_).atNext next
      · exact .ite (fun _ => .failure) fun _ => .pure []
      refine .ite (fun _ => .failure) fun _ => (agree_parameter h annotated seen).bind
        fun found => ?_
      obtain ⟨first, seen⟩ := found
      refine .nextFound rfl (fun hr => ?_) (.ite (fun _ => .failure) fun _ => ?_)
      · exact (ih (by omega) (by omega) seen).bind fun others => .pure _
      · exact .peek fun next => (Agree.ite (fun _ => .pure _) fun _ => .failure).atNext next

/-- So are the parameters of a function, of which none has been seen yet. -/
theorem agree_parameters (h : NestedAgree l nested nested') (annotated : Bool) (closing : String) :
    Agree due due r l (parameters nested annotated closing)
      (parameters nested' annotated closing) := by
  unfold parameters
  exact .remaining fun r' _ m m' hm hm' =>
    agree_parametersFrom h annotated closing (Nat.lt_succ_of_lt hm) (Nat.lt_succ_of_lt hm') _

/-! ## Values -/

/-- **Expressions are parsed alike**: functions without a name, conditional ones, and disjunctions.
-/
theorem agree_expression (h : NestedAgree (l - 1) nested nested') :
    Agree due due r l (expression nested) (expression nested') := by
  unfold expression
  refine .whenFound rfl (fun _ _ => ?_) ((agree_disjunction h).bind fun body => ?_)
  · refine (agree_parameters h false ":").bind fun found => ?_
    exact (Agree.expect rfl).bind fun _ => (h.agree _ _ _).bind fun body => .pure _
  · refine .whenFound rfl (fun _ _ => ?_) (.pure body)
    refine (agree_disjunction (h.mono (Nat.sub_le _ 1))).bind fun test => ?_
    exact (Agree.expect rfl).bind fun _ => (h.agree _ _ _).bind fun otherwise => .pure _

/-- So are those that may be given a name. The name and the sign behind it are looked at before one
of them is taken. -/
theorem agree_namedExpression (h : NestedAgree (l - 1) nested nested') :
    Agree due due r l (namedExpression nested) (namedExpression nested') := by
  have hplain : Agree due due r l
      (expression nested >>= fun value => peek >>= fun next =>
        if next = .operator ":=" then failure else pure value)
      (expression nested' >>= fun value => peek >>= fun next =>
        if next = .operator ":=" then failure else pure value) :=
    (agree_expression h).bind fun value => .peek fun next =>
      (Agree.ite (fun _ => .failure) fun _ => .pure value).atNext next
  unfold namedExpression atName
  simp only [bind_assoc]
  refine .peek fun kind => ?_
  cases kind with
  | name raw =>
    simp only [pure_bind, Bool.true_and, decide_eq_true_eq]
    refine .peekSecond (fun _ second => .ite (fun hsecond => ?_) fun _ => (hplain.atNext _).pair _)
      fun hout => by cases hout
    subst hsecond
    refine .nameToken (.taking rfl ?_)
    exact (agree_expression h).bind fun value => .pure _
  | _ =>
    simp only [pure_bind, Bool.false_and, Bool.false_eq_true, if_false]
    exact .peekSecond (fun _ _ => (hplain.atNext _).pair _) fun _ _ _ => hplain.atNext _

/-- So are several expressions, with a star in front or without one. -/
theorem agree_starExpressions (h : NestedAgree (l - 1) nested nested') :
    Agree due due r l (starExpressions nested) (starExpressions nested') := by
  unfold starExpressions
  refine .items (.ifFound rfl ?_ (agree_expression h)) fun found => .pure _
  exact (agree_bitOr h).bind fun value => .pure _

/-- So is what a generator hands out. -/
theorem agree_yieldExpression (h : NestedAgree (l - 1) nested nested') :
    Agree due due r l (yieldExpression nested) (yieldExpression nested') := by
  unfold yieldExpression
  refine (Agree.expect rfl).bind fun _ => .ifFound rfl ?_ (.peek fun next => ?_)
  · exact (agree_expression h).bind fun value => .pure _
  · refine (Agree.ite (fun _ => ?_) fun _ => .pure _).atNext next
    exact (agree_starExpressions h).bind fun value => .pure _

/-- **Every category of expressions is parsed alike**, one level of nesting further out. -/
theorem agree_category (h : NestedAgree (l - 1) nested nested') (kind : Category) :
    Agree due due r l (category nested kind) (category nested' kind) := by
  cases kind with
  | expression => exact agree_expression h
  | named => exact agree_namedExpression h
  | stars => exact agree_starExpressions h
  | yield => exact agree_yieldExpression h
  | disjunction => exact agree_disjunction h
  | inversion => exact agree_inversion h
  | bitOr => exact agree_bitOr h
  | factor => exact agree_factor h

/-- Nothing is found where a statement ends. -/
theorem run_exprAt_eq_none (depth : Nat) (kind : Category) {cursor : Cursor}
    (h : cursor.next.isInner = false) : (exprAt depth kind).run cursor = none := by
  refine led_exprAt depth kind cursor ?_
  cases hnext : cursor.next with
  | newline | indent | dedent | finish => rfl
  | operator symbol =>
    rw [hnext] at h
    obtain rfl : symbol = ";" := by simpa [Token.Kind.isInner] using h
    rfl
  | _ =>
    rw [hnext] at h
    exact absurd h nofun

/-- **How deep expressions may be nested does not matter** as long as it is deeper than the tokens
of the statement count for. -/
theorem nestedAgree_exprAt {depth depth' : Nat} (h : depth = depth' ∨ l < depth ∧ l < depth') :
    NestedAgree l (exprAt depth) (exprAt depth') where
  fails kind _ := run_exprAt_eq_none depth kind
  fails' kind _ := run_exprAt_eq_none depth' kind
  agree := by
    induction depth generalizing l depth' with
    | zero =>
      obtain rfl : depth' = 0 := by omega
      exact fun _ _ _ => .failure
    | succ depth ih =>
      obtain ⟨depth', rfl⟩ : ∃ n, depth' = n + 1 := ⟨depth' - 1, by omega⟩
      intro kind r due c c' hlike hroom hload
      cases hinner : c.next.isInner with
      | false =>
        rw [run_exprAt_eq_none _ kind hinner, run_exprAt_eq_none _ kind (hlike.next_eq ▸ hinner)]
        exact .none
      | true =>
        -- the first token counts, so there is a level of nesting to take off
        have hpos : 0 < l := by
          obtain ⟨rest, stop⟩ := c
          cases rest with
          | nil => exact absurd hinner nofun
          | cons token rest =>
            have : token.kind.isInner = true := hinner
            have := token.kind.weight_pos
            simp only [load, if_pos ‹token.kind.isInner = true›] at hload
            omega
        have hless : NestedAgree (l - 1) (exprAt depth) (exprAt depth') :=
          ⟨ih (by omega), fun kind _ => run_exprAt_eq_none depth kind,
            fun kind _ => run_exprAt_eq_none depth' kind⟩
        exact agree_category hless kind c c' hlike hroom hload

end ExpectFile.Grammar
