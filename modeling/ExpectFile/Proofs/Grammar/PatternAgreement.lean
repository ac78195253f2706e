import ExpectFile.Proofs.Grammar.StatementAgreement

/-!
# Patterns are parsed alike

The patterns of a branching statement, given how expressions are parsed.

* **`agree_closedPattern`** — one pattern, whatever those inside are.
* **`agree_patternAt`** — patterns that are nested so deep.
-/

namespace ExpectFile.Grammar

open TokenParser

variable {β : Type} {due left : List String} {r l : Nat} {nested nested' : Nested}
  {pattern pattern' : TokenParser Unit}

/-- Taking a token if it is of a kind, and going on in the same way if it is not. -/
theorem Agree.orNot {kind : Token.Kind} {parser parser' : TokenParser β}
    (hturn : kind.turn due = some due) (h : Agree due left r l parser parser') :
    Agree due left r l (TokenParser.found kind >>= fun _ => parser)
      (TokenParser.found kind >>= fun _ => parser') :=
  .found hturn (fun _ _ => h.mono (Nat.sub_le r 1) (Nat.sub_le l _)) h

/-- What agrees at every token agrees. -/
theorem Agree.of_atNext {parser parser' : TokenParser β}
    (h : ∀ kind, AgreeAt kind due left r l parser parser') : Agree due left r l parser parser' :=
  fun c c' hlike hroom hload => h c.next c c' hlike hroom hload rfl

/-! ## Names and constants -/

/-- Whether more than a name stands here is the same in both lists. -/
theorem agree_extendsName : Agree due due r l extendsName extendsName := by
  unfold extendsName
  refine .peek fun kind => ?_
  split <;> exact (Agree.pure _).atNext _

/-- A name to bind is parsed alike. -/
theorem agree_captureName : Agree due due r l captureName captureName := by
  unfold captureName
  refine agree_rawName.bind fun raw => agree_extendsName.bind fun more => ?_
  exact .ite (fun _ => .failure) fun _ => .pure ()

/-- A number is parsed alike, and it is imaginary in both lists or in neither. -/
theorem agree_patternNumber : Agree due due r l patternNumber patternNumber := by
  unfold patternNumber
  refine .peek fun kind => ?_
  split
  · exact .taking rfl (.pure true)
  · exact .taking rfl (.pure false)
  · exact Agree.failure.atNext _

/-- So are two numbers with a sign in between, of which the second one is imaginary. -/
theorem agree_numberPattern : Agree due due r l numberPattern numberPattern := by
  unfold numberPattern
  have hsigns : ∀ kind : Token.Kind,
      (decide (kind = .operator "+") || decide (kind = .operator "-")) = true →
        kind.turn due = some due := by
    intro kind h
    rcases (Bool.or_eq_true _ _).mp h with h | h <;> rw [of_decide_eq_true h] <;> rfl
  refine .orNot rfl (agree_patternNumber.bind fun isImaginary => .peek fun kind => .peek ?_)
  refine .ite (fun h => .taking (hsigns kind h) ?_) fun _ => (Agree.pure ()).atNext _
  refine .ite (fun _ => .failing) fun _ => agree_patternNumber.bind fun _ => ?_
  exact .ite (fun _ => .pure ()) fun _ => .failure

/-- Whether a constant is next is the same in both lists. -/
theorem agree_atConstant : Agree due due r l atConstant atConstant := by
  unfold atConstant
  refine .peek fun kind => ?_
  split <;> exact (Agree.pure _).atNext _

/-- A constant is parsed alike. -/
theorem agree_constantPattern (h : NestedAgree l nested nested') :
    Agree due due r l (constantPattern nested) (constantPattern nested') := by
  unfold constantPattern
  refine .peek fun kind => ?_
  split
  · exact agree_numberPattern.atNext _
  · exact agree_numberPattern.atNext _
  · exact ((agree_atom (h.mono (Nat.sub_le l 1))).bind fun _ => .pure ()).atNext _

/-! ## Sequences -/

/-- An item of a sequence is parsed alike, with a star in front or without one. -/
theorem agree_starPattern (h : Agree due due r l pattern pattern') :
    Agree due due r l (starPattern pattern) (starPattern pattern') := by
  unfold starPattern
  refine .ifFound rfl (.peek fun kind => .ite (fun hkind => ?_) fun _ => ?_)
    (h.bind fun _ => .pure _)
  · subst hkind
    exact .taking rfl (.pure true)
  · exact (agree_captureName.bind fun _ => .pure true).atNext kind

/-- Patterns between commas are parsed alike. -/
theorem agree_openSequence (h : Agree due due r l pattern pattern') :
    Agree due due r l (openSequence pattern) (openSequence pattern') := by
  unfold openSequence
  refine .items (agree_starPattern h) fun found => ?_
  exact .ite (fun _ => .failure) fun _ => .pure ()

/-- So are those in brackets, up to the closing one that is due. -/
theorem agree_closedSequence {closing : String}
    (hclosing : (Token.Kind.operator closing).turn (closing :: due) = some due)
    (h : Agree (closing :: due) (closing :: due) r l pattern pattern') :
    Agree (closing :: due) due r l (closedSequence pattern closing)
      (closedSequence pattern' closing) := by
  unfold closedSequence
  refine .ifFound hclosing (.pure ()) (.ite (fun _ => ?_) fun _ => ?_)
  · exact .items (agree_starPattern h) fun _ => .expect hclosing
  · exact (agree_openSequence h).bind fun _ => .expect hclosing

/-! ## Mappings and classes -/

/-- The entries of a mapping are parsed alike up to the closing brace, by induction on the fuel.
What takes the rest of the mapping is the last of them. -/
theorem agree_mappingEntries (h : NestedAgree l nested nested')
    (hpattern : ∀ due, Agree due due r l pattern pattern') {fuel fuel' : Nat}
    (hfuel : r < fuel) (hfuel' : r < fuel') :
    Agree ("\x7d" :: due) due r l (mappingEntries nested pattern fuel)
      (mappingEntries nested' pattern' fuel') := by
  induction fuel generalizing r fuel' with
  | zero => omega
  | succ fuel ih =>
    cases fuel' with
    | zero => omega
    | succ fuel' =>
      unfold mappingEntries
      have hvalue : Agree ("\x7d" :: due) due r l
          (operator ":" >>= fun _ => pattern >>= fun _ => foundOperator "," >>= fun isNext =>
            if isNext = true then mappingEntries nested pattern fuel else operator "\x7d")
          (operator ":" >>= fun _ => pattern' >>= fun _ => foundOperator "," >>= fun isNext =>
            if isNext = true then mappingEntries nested' pattern' fuel' else operator "\x7d") := by
        refine (Agree.expect rfl).bind fun _ => (hpattern _).bind fun _ => ?_
        refine .nextFound rfl (fun hr => ih (fun due => (hpattern due).mono (Nat.sub_le r 1)
          (Nat.le_refl l)) (by omega) (by omega)) (.expect rfl)
      refine .ifFound rfl (.pure ()) (.ifFound rfl ?_ (agree_atConstant.bind fun isConstant => ?_))
      · exact agree_captureName.bind fun _ => .orNot rfl (.expect rfl)
      refine .ite (fun _ => (agree_constantPattern h).bind fun _ => hvalue) fun _ => ?_
      refine agree_rawName.bind fun _ => ?_
      refine .looping (fun _ _ _ _ hm hm' => agree_attributeNames hm hm') fun n => ?_
      exact .ite (fun _ => .failing) fun _ => hvalue

/-- The arguments of a class are parsed alike up to the closing parenthesis, by induction on the
fuel. Behind one with a name, all have names. -/
theorem agree_classArguments (hpattern : ∀ due, Agree due due r l pattern pattern')
    {fuel fuel' : Nat} (hfuel : r < fuel) (hfuel' : r < fuel') (named : Bool) :
    Agree (")" :: due) due r l (classArguments pattern fuel named)
      (classArguments pattern' fuel' named) := by
  induction fuel generalizing r fuel' named with
  | zero => omega
  | succ fuel ih =>
    cases fuel' with
    | zero => omega
    | succ fuel' =>
      unfold classArguments
      have hmore : ∀ named, Agree (")" :: due) due r l
          (foundOperator "," >>= fun isNext =>
            if isNext = true then classArguments pattern fuel named else operator ")")
          (foundOperator "," >>= fun isNext =>
            if isNext = true then classArguments pattern' fuel' named else operator ")") :=
        fun named => .nextFound rfl (fun hr => ih (fun due => (hpattern due).mono (Nat.sub_le r 1)
          (Nat.le_refl l)) (by omega) (by omega) named) (.expect rfl)
      refine .ifFound rfl (.pure ()) ?_
      refine .of_atNext fun kind => .atNamedArgument (fun raw hname => ?_) (Agree.atNext ?_ kind)
      · subst hname
        exact .advance rfl fun _ _ => .taking rfl (Agree.mono ((hpattern _).bind fun _ => hmore _)
          (Nat.sub_le r 1) (Nat.sub_le l _))
      · dsimp only
        refine .ite (absurd · Bool.false_ne_true) fun _ => .ite (fun _ => .failing) fun _ => ?_
        exact (hpattern _).bind fun _ => hmore _

/-! ## Alternatives -/

/-- The patterns inside of a pattern stand in brackets, so a token is taken in front of them. -/
theorem agree_namePattern (hpattern : 0 < r → ∀ due, Agree due due (r - 1) l pattern pattern') :
    Agree due due r l (namePattern pattern) (namePattern pattern') := by
  unfold namePattern
  refine agree_rawName.bind fun raw => .ite (fun _ => .pure ()) fun _ => ?_
  refine .looping (fun _ _ _ _ hm hm' => agree_attributeNames hm hm') fun _ => ?_
  refine .nextFound rfl (fun hr => ?_)
    (agree_extendsName.bind fun _ => .ite (fun _ => .failure) fun _ => .pure ())
  exact .remaining fun r' hr' m m' hm hm' =>
    agree_classArguments (fun due => (hpattern hr due).mono hr' (Nat.le_refl l)) hm hm' false

/-- A pattern without alternatives is parsed alike, if the patterns in its brackets are. The bracket
in front has taken a token, so fewer are left for those. -/
theorem agree_closedPattern (h : NestedAgree l nested nested')
    (hpattern : 0 < r → ∀ due, Agree due due (r - 1) l pattern pattern') :
    Agree due due r l (closedPattern nested pattern) (closedPattern nested' pattern') := by
  unfold closedPattern
  refine agree_atConstant.bind fun _ => .ite (fun _ => agree_constantPattern h) fun _ => ?_
  refine .nextFound rfl (fun hr => agree_closedSequence rfl (hpattern hr _))
    (.nextFound rfl (fun hr => agree_closedSequence rfl (hpattern hr _))
      (.nextFound rfl (fun hr => ?_) (agree_namePattern hpattern)))
  exact .remaining fun r' hr' m m' hm hm' =>
    agree_mappingEntries h (fun due => (hpattern hr due).mono hr' (Nat.le_refl l)) hm hm'

/-- Alternatives behind the first one are parsed alike, by induction on the fuel. -/
theorem agree_moreAlternatives (h : Agree due due r l pattern pattern') {fuel fuel' : Nat}
    (hfuel : r < fuel) (hfuel' : r < fuel') :
    Agree due due r l (moreAlternatives pattern fuel) (moreAlternatives pattern' fuel') := by
  induction fuel generalizing r fuel' with
  | zero => omega
  | succ fuel ih =>
    cases fuel' with
    | zero => omega
    | succ fuel' =>
      unfold moreAlternatives
      have hless : Agree due due (r - 1) l pattern pattern' :=
        h.mono (Nat.sub_le r 1) (Nat.le_refl l)
      exact .nextFound rfl (fun hr => hless.bind fun _ => ih hless (by omega) (by omega)) (.pure ())

/-- **Patterns** are parsed alike where expressions are. Every pattern inside of another takes a
token, so the depth does not matter as long as it is greater than the number of tokens. -/
theorem agree_patternAt (h : NestedAgree l nested nested') {depth depth' : Nat}
    (hdepth : depth = depth' ∨ r < depth ∧ r < depth') :
    Agree due due r l (patternAt nested depth) (patternAt nested' depth') := by
  induction depth generalizing due r depth' with
  | zero =>
    obtain rfl : 0 = depth' := hdepth.resolve_right fun hless => Nat.not_lt_zero r hless.1
    exact .failure
  | succ depth ih =>
    cases depth' with
    | zero => omega
    | succ depth' =>
      unfold patternAt alternatives
      have hinner : ∀ r' ≤ r, 0 < r' → ∀ due,
          Agree due due (r' - 1) l (patternAt nested depth) (patternAt nested' depth') :=
        fun r' hr hpos due => ih (by omega)
      have hmore : ∀ r' ≤ r, ∀ m m', r' < m → r' < m' → Agree due due r' l
          (moreAlternatives (closedPattern nested (patternAt nested depth)) (m + 1))
          (moreAlternatives (closedPattern nested' (patternAt nested' depth')) (m' + 1)) :=
        fun r' hr m m' hm hm' => agree_moreAlternatives (agree_closedPattern h (hinner r' hr))
          (Nat.lt_succ_of_lt hm) (Nat.lt_succ_of_lt hm')
      refine (agree_closedPattern h (hinner r (Nat.le_refl r))).bind fun _ =>
        .looping hmore fun _ => ?_
      exact .ifFound rfl agree_captureName (.pure ())

end ExpectFile.Grammar
