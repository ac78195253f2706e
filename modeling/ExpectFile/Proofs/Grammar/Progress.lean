import ExpectFile.Grammar.StatementParser
import ExpectFile.Proofs.Grammar.Cursors

/-!
# Parsers take tokens off the front

No parser looks behind it, gives a token back or invents one: what it leaves is the end of what it
found, and the place that it remembers is where the last visible token that it took stopped. That
holds of each elementary parser, chains and choices keep it, and every other parser is put together
from these; so it is stated as a class, and instance resolution does the putting together. Only
where a parser goes on by the kind of a token, or calls itself, is there something to do by hand.

* **`Cursor.Reaches`** — what a cursor becomes when tokens are taken.
* **`Looks`** — a parser that takes nothing; **`Advances`** — one that takes tokens off the front.
* **`Advances.andThen`**, **`Advances.of_peek`** — a chain that goes on by what was found.
-/

namespace ExpectFile.Grammar

open TokenParser

/-! ## Cursors -/

/-- Where the last visible token stops, of some that are taken one after the other. -/
def stopBehind (taken : List Token) (stop : Position) : Position :=
  taken.foldl (fun stop token => if token.isVisible then token.stop else stop) stop

/-- The second cursor is what the first becomes when tokens are taken. -/
def Cursor.Reaches (cursor after : Cursor) : Prop :=
  ∃ taken, cursor.rest = taken ++ after.rest ∧ after.stop = stopBehind taken cursor.stop

namespace Cursor.Reaches

variable {cursor between after : Cursor}

/-- Nothing need be taken. -/
theorem refl (cursor : Cursor) : cursor.Reaches cursor := ⟨[], rfl, rfl⟩

/-- What is taken later comes behind what was taken first. -/
theorem trans (h : cursor.Reaches between) (hnext : between.Reaches after) :
    cursor.Reaches after := by
  obtain ⟨first, hfirst, hstop⟩ := h
  obtain ⟨second, hsecond, hlast⟩ := hnext
  refine ⟨first ++ second, ?_, ?_⟩
  · rw [hfirst, hsecond, List.append_assoc]
  · rw [hlast, hstop]
    exact List.foldl_append.symm

end Cursor.Reaches

/-! ## Chains and choices

To take nothing is kept by chains of parsers, and to take tokens off the front by chains and
choices. -/

variable {α β γ : Type}

/-- A parser that takes tokens off the front and does nothing else. -/
class Advances (parser : TokenParser α) : Prop where
  reaches : ∀ {cursor a after}, parser.run cursor = some (a, after) → cursor.Reaches after

/-- A parser that takes nothing. -/
class Looks (parser : TokenParser α) : Prop where
  stays : ∀ {cursor a after}, parser.run cursor = some (a, after) → after = cursor

namespace Looks

/-- Giving a result takes nothing. -/
instance (a : α) : Looks (pure a : TokenParser α) where
  stays h := by
    cases h
    rfl

/-- A chain of parsers that take nothing takes nothing. -/
instance {parser : TokenParser α} {f : α → TokenParser β} [Looks parser] [∀ a, Looks (f a)] :
    Looks (parser >>= f) where
  stays h := by
    obtain ⟨a, between, hfirst, hsecond⟩ := run_bind_eq_some.mp h
    exact (stays hsecond).trans (stays hfirst)

instance : Looks (get : TokenParser Cursor) where
  stays h := by
    cases h
    rfl

instance : Looks peek where
  stays {cursor _ _} h := by
    rw [run_peek cursor] at h
    cases h
    rfl

instance : Looks peekSecond where
  stays {cursor _ _} h := by
    rw [run_peekSecond cursor] at h
    cases h
    rfl

instance : Looks remaining where
  stays {cursor _ _} h := by
    rw [run_remaining cursor] at h
    cases h
    rfl

/-- Where the next token starts is seen without taking it; behind the last one nothing starts. -/
instance : Looks TokenParser.start where
  stays {cursor _ _} h := by
    obtain ⟨rest, stop⟩ := cursor
    cases rest with
    | nil => exact absurd h nofun
    | cons token rest =>
      rw [run_start] at h
      cases h
      rfl

/-- Whether the next token is a name is seen from its kind. -/
instance : Looks atName where
  stays {cursor isName after} h := by
    obtain ⟨kind, between, hpeek, hrest⟩ := run_bind_eq_some.mp h
    obtain rfl := stays hpeek
    split at hrest <;> exact stays hrest

end Looks

namespace Advances

/-- What takes nothing takes no tokens off the front. -/
theorem of_looks {parser : TokenParser α} [Looks parser] : Advances parser where
  reaches {cursor _ _} h := Looks.stays h ▸ .refl cursor

instance (a : α) : Advances (pure a : TokenParser α) := of_looks

/-- A parser that fails leaves no cursor to speak of. -/
instance : Advances (failure : TokenParser α) where
  reaches h := absurd h nofun

/-- **A chain** takes what its parts take, one behind the other. -/
instance bind {parser : TokenParser α} {f : α → TokenParser β} [Advances parser]
    [∀ a, Advances (f a)] : Advances (parser >>= f) where
  reaches h := by
    obtain ⟨a, between, hfirst, hsecond⟩ := run_bind_eq_some.mp h
    exact (reaches hfirst).trans (reaches hsecond)

instance {parser : TokenParser α} {f : α → β} [Advances parser] : Advances (f <$> parser) :=
  inferInstanceAs (Advances (parser >>= fun a => pure (f a)))

instance {c : Prop} [Decidable c] {first second : TokenParser α} [Advances first]
    [Advances second] : Advances (if c then first else second) := by
  split <;> infer_instance

/-- A parser that goes on by a pair, where both parts are known. -/
instance {f : α × β → TokenParser γ} [∀ a b, Advances (f (a, b))] (pair : α × β) :
    Advances (f pair) :=
  inferInstanceAs (Advances (f (pair.1, pair.2)))

/-- **A choice** takes what one of the two takes. The second one begins where the first one did, so
nothing that the first one took is lost. -/
instance {first second : TokenParser α} [Advances first] [Advances second] :
    Advances (first <|> second) where
  reaches {cursor a after} h := by
    have hcases : first.run cursor = some (a, after) ∨ second.run cursor = some (a, after) := by
      change ((first.run cursor).orElse fun _ => second.run cursor) = some (a, after) at h
      cases hfirst : first.run cursor with
      | none =>
        rw [hfirst] at h
        exact .inr h
      | some outcome =>
        rw [hfirst] at h
        exact .inl h
    exact hcases.elim reaches reaches

/-! ## Elementary parsers

Those that look take nothing, and a token that is expected, or that may be there, is taken by one
parser only (`advance`). -/

instance : Advances (get : TokenParser Cursor) := of_looks

instance : Advances peek := of_looks

instance : Advances peekSecond := of_looks

instance : Advances remaining := of_looks

instance : Advances TokenParser.start := of_looks

/-- The only parser that takes a token. All the others do so through it. -/
instance : Advances advance where
  reaches {cursor a after} h := by
    obtain ⟨rest, stop⟩ := cursor
    cases rest with
    | nil => exact absurd h nofun
    | cons token rest =>
      rw [run_advance] at h
      cases h
      exact ⟨[token], rfl, rfl⟩

instance (kind : Token.Kind) : Advances (found kind) := by unfold found; infer_instance

instance (kind : Token.Kind) : Advances (expect kind) := by unfold expect; infer_instance

instance (symbol : String) : Advances (operator symbol) :=
  inferInstanceAs (Advances (expect _))

instance (word : String) : Advances (keyword word) := inferInstanceAs (Advances (expect _))

instance (symbol : String) : Advances (foundOperator symbol) :=
  inferInstanceAs (Advances (found _))

instance (word : String) : Advances (foundKeyword word) := inferInstanceAs (Advances (found _))

/-- A parser that goes on by what another one found. -/
theorem andThen {parser : TokenParser α} {f : α → TokenParser β} (hfirst : Advances parser)
    (h : ∀ a, Advances (f a)) : Advances (parser >>= f) := inferInstance

/-- A parser that goes on by the kind of the next token. -/
theorem of_peek {f : Token.Kind → TokenParser α} (h : ∀ kind, Advances (f kind)) :
    Advances (peek >>= f) := inferInstance

/-- A name is taken, or there is none. -/
instance : Advances rawName := of_peek fun kind => by split <;> infer_instance

/-- Items and the commas between them. Induction on the fuel: behind a comma there is the same with
less of it. -/
instance {starts : Token.Kind → Bool} {item : TokenParser α} [Advances item] (fuel : Nat) :
    Advances (commaItems starts item fuel) := by
  induction fuel with
  | zero => exact inferInstanceAs (Advances failure)
  | succ fuel ih => unfold commaItems; infer_instance

/-- A list that ends with its last item, likewise. -/
instance {item : TokenParser α} [Advances item] (fuel : Nat) :
    Advances (commaList item fuel) := by
  induction fuel with
  | zero => exact inferInstanceAs (Advances failure)
  | succ fuel ih => unfold commaList; infer_instance

/-! ## Pieces of expressions

A loop is a parser with fuel: without fuel it fails, and otherwise it is a chain at whose end the
same loop stands with less of it. What is inside of brackets is a parameter, and takes tokens off
the front by assumption. -/

-- the longest chains are longer than instances usually are
set_option synthInstance.maxSize 4096

instance : Advances nameToken := by unfold nameToken; infer_instance

section

variable {nested : Nested} [∀ kind, Advances (nested kind)]

/-- Operators of one level behind their first operand. What stands to the left grows on the way. -/
instance (level : Level) (symbols : List String) (operand : TokenParser Expr) [Advances operand]
    (fuel : Nat) (left : Expr) : Advances (leftChain level symbols operand fuel left) := by
  induction fuel generalizing left with
  | zero => exact inferInstanceAs (Advances failure)
  | succ fuel ih => exact of_peek fun kind => by split <;> infer_instance

/-- A level goes on behind its first operand only if an operator is next. -/
instance (level : Level) (symbols : List String) (operand : TokenParser Expr)
    [Advances operand] : Advances (leftLevel level symbols operand) :=
  andThen inferInstance fun first => of_peek fun kind => by split <;> infer_instance

instance (word : String) (operand : TokenParser Expr) [Advances operand] (fuel : Nat) :
    Advances (keywordChain word operand fuel) := by
  induction fuel with
  | zero => exact inferInstanceAs (Advances failure)
  | succ fuel ih => unfold keywordChain; infer_instance

instance (level : Level) (word : String) (operand : TokenParser Expr) [Advances operand] :
    Advances (keywordLevel level word operand) := by unfold keywordLevel; infer_instance

instance : Advances (starNamed nested) := by unfold starNamed; infer_instance

instance : Advances (loopTargets nested) := by unfold loopTargets; infer_instance

instance (fuel : Nat) : Advances (clauseConditions nested fuel) := by
  induction fuel with
  | zero => exact inferInstanceAs (Advances failure)
  | succ fuel ih => unfold clauseConditions; infer_instance

instance : Advances atClause := by unfold atClause; infer_instance

/-- The clauses of a comprehension, each of them a chain of its parts. -/
instance (fuel : Nat) : Advances (clauses nested fuel) := by
  induction fuel with
  | zero => exact inferInstanceAs (Advances failure)
  | succ fuel ih => unfold clauses; infer_instance

/-- A comprehension without a clause is none. -/
instance : Advances (someClauses nested) :=
  andThen inferInstance fun _ => andThen inferInstance fun found => by
    split <;> infer_instance

instance : Advances (parenthesized nested) := by unfold parenthesized; infer_instance

/-- In square brackets, what was found in front of the closing one decides what it is. -/
instance : Advances (bracketed nested) := by
  refine andThen inferInstance fun isEmpty => ?_
  split
  · infer_instance
  · refine andThen inferInstance fun _ => andThen inferInstance fun (items, trailing) => ?_
    dsimp only
    split <;> infer_instance

instance : Advances (tableEntry nested) := by unfold tableEntry; infer_instance

instance (first : Expr) : Advances (tableRest nested first) := by
  unfold tableRest; infer_instance

instance (first : Expr) : Advances (setRest nested first) := by unfold setRest; infer_instance

instance : Advances (braced nested) := by unfold braced; infer_instance

/-- Literals next to each other, as long as there is one. -/
instance (fuel : Nat) : Advances (adjacentLiterals fuel) := by
  induction fuel with
  | zero => exact inferInstanceAs (Advances failure)
  | succ fuel ih => exact of_peek fun kind => by split <;> infer_instance

/-- What an atom is shows at its first token. The texts inside of literals are parsed on their own
and take nothing here. -/
instance : Advances (atom nested) := of_peek fun kind => by
  have hvalue : ∀ literals, Advances (match literalsExpr (embedded nested) literals with
      | some value => pure value
      | none => failure : TokenParser Expr) := fun literals => by split <;> infer_instance
  split <;> infer_instance

/-! ## Calls and subscripts -/

instance : Advances atName := of_looks

instance : Advances atNamedArgument := by unfold atNamedArgument; infer_instance

/-- Arguments up to the closing parenthesis, whichever have come before. -/
instance (fuel : Nat) (stage : ArgumentStage) : Advances (argumentsFrom nested fuel stage) := by
  induction fuel generalizing stage with
  | zero => exact inferInstanceAs (Advances failure)
  | succ fuel ih => unfold argumentsFrom; infer_instance

instance : Advances (callArguments nested) := by unfold callArguments; infer_instance

instance : Advances (sliceItem nested) := by unfold sliceItem; infer_instance

instance : Advances (subscriptIndex nested) := by unfold subscriptIndex; infer_instance

/-- Attributes, calls and subscripts, each of them behind the value that has been found so far. -/
instance (fuel : Nat) (value : Expr) : Advances (trailers nested fuel value) := by
  induction fuel generalizing value with
  | zero => exact inferInstanceAs (Advances failure)
  | succ fuel ih => unfold trailers; infer_instance

/-- Behind an atom there may be a point, a parenthesis or a bracket to go on with. -/
instance : Advances (primary nested) :=
  andThen inferInstance fun value => of_peek fun kind => by split <;> infer_instance

/-! ## Operators -/

instance : Advances (power nested) := by unfold power; infer_instance

/-- A sign in front is taken, or there is none. -/
instance : Advances (factor nested) := of_peek fun kind => by split <;> infer_instance

instance : Advances (bitOr nested) := by unfold bitOr; infer_instance

/-- The operator of a comparison may be two words. -/
instance : Advances comparisonOperator :=
  of_peek fun first => andThen inferInstance fun second => by split <;> infer_instance

instance (operand : TokenParser Expr) [Advances operand] (fuel : Nat) :
    Advances (comparisonChain operand fuel) := by
  induction fuel with
  | zero => exact inferInstanceAs (Advances failure)
  | succ fuel ih => exact andThen inferInstance fun symbol => by split <;> infer_instance

/-- A comparison goes on behind its first operand only if an operator is next. -/
instance : Advances (comparison nested) :=
  andThen inferInstance fun first => andThen inferInstance fun symbol => by
    split <;> infer_instance

instance : Advances (inversion nested) := by unfold inversion; infer_instance

instance : Advances (disjunction nested) := by unfold disjunction; infer_instance

/-! ## Functions and values -/

instance (annotated starAllowed : Bool) : Advances ( annotation nested annotated starAllowed) := by
  unfold annotation; infer_instance

instance (annotated : Bool) (seen : ParametersSeen) :
    Advances (parameter nested annotated seen) := by unfold parameter; infer_instance

/-- Parameters up to what closes the list, whichever have been seen. -/
instance (annotated : Bool) (closing : String) (fuel : Nat) (seen : ParametersSeen) :
    Advances (parametersFrom nested annotated closing fuel seen) := by
  induction fuel generalizing seen with
  | zero => exact inferInstanceAs (Advances failure)
  | succ fuel ih => unfold parametersFrom; infer_instance

instance (annotated : Bool) (closing : String) : Advances (parameters nested annotated closing) := by
  unfold parameters; infer_instance

instance : Advances (expression nested) := by unfold expression; infer_instance

instance : Advances (namedExpression nested) := by unfold namedExpression; infer_instance

instance : Advances (starExpressions nested) := by unfold starExpressions; infer_instance

instance : Advances (yieldExpression nested) := by unfold yieldExpression; infer_instance

/-- **Every category of expressions** takes tokens off the front if what is nested in it does. -/
instance (kind : Category) : Advances (category nested kind) := by
  unfold category
  split <;> infer_instance

end

/-- So expressions do at every depth. Deeper than that, nothing can be parsed. -/
instance (depth : Nat) (kind : Category) : Advances (exprAt depth kind) := by
  induction depth generalizing kind with
  | zero => exact inferInstanceAs (Advances failure)
  | succ depth ih => exact inferInstanceAs (Advances (category (exprAt depth) kind))

/-! ## Patterns -/

instance : Advances extendsName := of_peek fun kind => by split <;> infer_instance

instance : Advances captureName := by unfold captureName; infer_instance

instance : Advances patternNumber := of_peek fun kind => by split <;> infer_instance

instance : Advances numberPattern := by unfold numberPattern; infer_instance

instance : Advances atConstant := of_peek fun kind => by split <;> infer_instance

instance (fuel : Nat) : Advances (attributeNames fuel) := by
  induction fuel with
  | zero => exact inferInstanceAs (Advances failure)
  | succ fuel ih => unfold attributeNames; infer_instance

section

variable {nested : Nested} [∀ kind, Advances (nested kind)]
  {pattern : TokenParser Unit} [Advances pattern]

instance : Advances (constantPattern nested) := of_peek fun kind => by split <;> infer_instance

instance : Advances (starPattern pattern) := by unfold starPattern; infer_instance

instance : Advances (openSequence pattern) := by unfold openSequence; infer_instance

instance (closing : String) : Advances (closedSequence pattern closing) := by
  unfold closedSequence; infer_instance

/-- The entries of a mapping up to the closing brace. -/
instance (fuel : Nat) : Advances (mappingEntries nested pattern fuel) := by
  induction fuel with
  | zero => exact inferInstanceAs (Advances failure)
  | succ fuel ih => unfold mappingEntries; infer_instance

/-- The arguments of a class, up to the closing parenthesis. -/
instance (fuel : Nat) (named : Bool) : Advances (classArguments pattern fuel named) := by
  induction fuel generalizing named with
  | zero => exact inferInstanceAs (Advances failure)
  | succ fuel ih => unfold classArguments; infer_instance

instance : Advances (namePattern pattern) := by unfold namePattern; infer_instance

instance : Advances (closedPattern nested pattern) := by unfold closedPattern; infer_instance

instance (fuel : Nat) : Advances (moreAlternatives pattern fuel) := by
  induction fuel with
  | zero => exact inferInstanceAs (Advances failure)
  | succ fuel ih => unfold moreAlternatives; infer_instance

instance : Advances (alternatives nested pattern) := by unfold alternatives; infer_instance

/-- **Patterns** take tokens off the front at every depth, as expressions do. -/
instance (depth : Nat) : Advances (patternAt nested depth) := by
  induction depth with
  | zero => exact inferInstanceAs (Advances failure)
  | succ depth ih => exact inferInstanceAs (Advances (alternatives nested (patternAt nested depth)))

end

/-! ## Simple statements -/

instance : Advances dottedName := by unfold dottedName; infer_instance

instance : Advances aliasName := by unfold aliasName; infer_instance

instance (fuel : Nat) : Advances (leadingPoints fuel) := by
  induction fuel with
  | zero => exact inferInstanceAs (Advances failure)
  | succ fuel ih => unfold leadingPoints; infer_instance

instance : Advances importedNames := by unfold importedNames; infer_instance

section

variable {nested : Nested} [∀ kind, Advances (nested kind)]

instance : Advances (assignedValue nested) := by unfold assignedValue; infer_instance

/-- In a chain of assignments, each value may be the target of the next one. -/
instance (fuel : Nat) (target : Expr) : Advances (assignments nested fuel target) := by
  induction fuel generalizing target with
  | zero => exact inferInstanceAs (Advances failure)
  | succ fuel ih => unfold assignments; infer_instance

/-- Behind an expression, the next token says whether it is assigned to. -/
instance : Advances (expressionStatement nested) :=
  andThen inferInstance fun value => of_peek fun kind => by split <;> infer_instance

/-- **A simple statement** shows at its first token what it is. -/
instance : Advances (simpleStatement nested) := of_peek fun kind => by split <;> infer_instance

/-- The simple statements of a line. -/
instance (fuel : Nat) : Advances (simpleLine nested fuel) := by
  induction fuel with
  | zero => exact inferInstanceAs (Advances failure)
  | succ fuel ih => unfold simpleLine; infer_instance

/-! ## Compound statements

Their bodies are a parameter as well. -/

variable {suite : TokenParser Unit} [Advances suite]

instance : Advances (body suite) := by unfold body; infer_instance

instance : Advances (elseBody suite) := by unfold elseBody; infer_instance

/-- A branch with a condition may have another one behind it. -/
instance (fuel : Nat) : Advances (branches nested suite fuel) := by
  induction fuel with
  | zero => exact inferInstanceAs (Advances failure)
  | succ fuel ih => unfold branches; infer_instance

instance : Advances (forLoop nested suite) := by unfold forLoop; infer_instance

instance : Advances (contextItem nested) := by unfold contextItem; infer_instance

instance : Advances (contextStatement nested suite) := by unfold contextStatement; infer_instance

instance (groups : Bool) (fuel : Nat) : Advances (handlers nested suite groups fuel) := by
  induction fuel with
  | zero => exact inferInstanceAs (Advances failure)
  | succ fuel ih => unfold handlers; infer_instance

instance : Advances (guardedStatement nested suite) := by unfold guardedStatement; infer_instance

instance : Advances (functionDefinition nested suite) := by
  unfold functionDefinition; infer_instance

instance : Advances (classDefinition nested suite) := by unfold classDefinition; infer_instance

/-- The cases of a branching statement, up to the dedent. -/
instance (depth fuel : Nat) : Advances (cases nested depth suite fuel) := by
  induction fuel with
  | zero => exact inferInstanceAs (Advances failure)
  | succ fuel ih => unfold Grammar.cases; infer_instance

/-- Behind the subject of a branching statement, which is no single item with a star. -/
theorem afterSubject (items : List Expr) (trailing : Bool) : Advances (match items, trailing with
    | [.starred _], false => failure
    | _, _ => operator ":" >>= fun _ => expect .newline : TokenParser Unit) := by
  split <;> infer_instance

/-- The head of a branching statement, which is only tried. -/
instance : Advances (branchingHead nested) := by
  have := afterSubject
  unfold branchingHead
  infer_instance

instance (fuel : Nat) : Advances (decorators nested fuel) := by
  induction fuel with
  | zero => exact inferInstanceAs (Advances failure)
  | succ fuel ih => unfold decorators; infer_instance

instance : Advances (definition nested suite) := by unfold definition; infer_instance

instance : Advances (decoratedDefinition nested suite) := by
  unfold decoratedDefinition; infer_instance

/-- The head of a branching statement is run apart, and what it left is gone on from. -/
instance (depth : Nat) : Advances (compoundStatement nested depth suite) := of_peek fun kind => by
  split
  all_goals try infer_instance
  · refine andThen inferInstance fun second => ?_
    split <;> infer_instance
  · refine ⟨fun {cursor isCompound after} h => ?_⟩
    obtain ⟨_, _, hget, h⟩ := run_bind_eq_some.mp h
    cases hget
    split at h
    · rename_i head between hhead
      obtain ⟨_, _, hset, h⟩ := run_bind_eq_some.mp h
      cases hset
      exact (reaches hhead).trans (reaches h)
    · cases h
      exact .refl _

instance (depth : Nat) : Advances (statementLine nested depth suite) := by
  unfold statementLine; infer_instance

end

/-- Lines of statements up to a mark. -/
instance (mark : Token.Kind) {line : TokenParser (List ParsedStatement)} [Advances line]
    (fuel : Nat) : Advances (statementsUpTo mark line fuel) := by
  induction fuel with
  | zero => exact inferInstanceAs (Advances failure)
  | succ fuel ih => unfold statementsUpTo; infer_instance

/-- **The body of a compound statement**, at every depth of blocks. -/
instance {nested : Nested} [∀ kind, Advances (nested kind)] (depth : Nat) :
    Advances (suiteAt nested depth) := by
  induction depth with
  | zero => exact inferInstanceAs (Advances failure)
  | succ depth ih => unfold suiteAt; infer_instance

end Advances

end ExpectFile.Grammar
