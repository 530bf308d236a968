import ScriptLexer.Proofs.Lexeme

set_option autoImplicit false

/-! # Priority and maximal munch

A rule applies to a text if one of its lexemes stands at the front. The rules are tried in the
order of their ranks, and the first one that applies takes its longest lexeme (`Munch`). The
main results say that the scan of a text does exactly this (`Surface.scan_eq_token_iff`), and
what the scan finds where no rule applies (`Surface.scan_eq_none_iff`,
`Surface.scan_eq_faulty_iff`). -/

namespace ScriptLexer

namespace Rule

/-- The place of the rule in the order in which the rules are tried. -/
def rank : Rule → Nat
  | .identifier => 0
  | .number => 1
  | .operator => 2
  | .string => 3
  | .lineBreak => 4

/-- A lexeme of the rule stands at the front of the text. -/
def Applies (surface : Surface) (rule : Rule) (text : Text) : Prop :=
  ∃ token lexeme, Lexeme surface rule token lexeme ∧ lexeme <+: text

/-- The lexeme is the longest one of the rule at the front of the text. -/
structure Longest (surface : Surface) (rule : Rule) (text : Text) (token : Token)
    (lexeme : Text) : Prop where
  written : Lexeme surface rule token lexeme
  front : lexeme <+: text
  longest : ∀ token' lexeme', Lexeme surface rule token' lexeme' → lexeme' <+: text →
    lexeme'.length ≤ lexeme.length

end Rule

/-- The rule is the first one that applies to the text, and the lexeme is its longest one. -/
structure Munch (surface : Surface) (rule : Rule) (text : Text) (token : Token)
    (lexeme : Text) : Prop extends rule.Longest surface text token lexeme where
  first : ∀ earlier : Rule, earlier.rank < rule.rank → ¬earlier.Applies surface text

variable {surface : Surface} {rule : Rule} {token token' : Token} {text lexeme lexeme' : Text}

theorem Rule.Longest.applies (h : rule.Longest surface text token lexeme) :
    rule.Applies surface text :=
  ⟨token, lexeme, h.written, h.front⟩

theorem Rule.Longest.unique (h : rule.Longest surface text token lexeme)
    (h' : rule.Longest surface text token' lexeme') : token = token' ∧ lexeme = lexeme' := by
  have hle := h'.longest token lexeme h.written h.front
  have hle' := h.longest token' lexeme' h'.written h'.front
  have hfront : lexeme <+: lexeme' := List.prefix_of_prefix_length_le h.front h'.front hle
  obtain rfl := hfront.eq_of_length_le hle'
  exact ⟨h.written.token_unique h'.written, rfl⟩

/-- A lexeme is the longest one if it does not go on with the character behind it. -/
theorem Lexeme.longest (h : Lexeme surface rule token lexeme) {rest : Text}
    (hstop : ∀ c, rest.head? = some c → ¬rule.continues surface c) :
    rule.Longest surface (lexeme ++ rest) token lexeme := by
  refine ⟨h, List.prefix_append _ _, fun token' lexeme' hwritten hfront => ?_⟩
  by_contra hlonger
  obtain ⟨more, rfl⟩ : lexeme <+: lexeme' :=
    List.prefix_of_prefix_length_le (List.prefix_append _ _) hfront (by omega)
  cases more with
  | nil => simp at hlonger
  | cons c more =>
    obtain ⟨rest', rfl⟩ := (List.prefix_append_right_inj lexeme).mp hfront
    exact hstop c rfl (h.continues hwritten)

/-- The first character of a text to which a rule applies. -/
theorem Rule.Applies.starts (h : rule.Applies surface text) :
    ∃ c rest, text = c :: rest ∧ rule.starts surface c := by
  obtain ⟨token, lexeme, hwritten, hfront⟩ := h
  obtain ⟨c, rest, rfl, hc⟩ := hwritten.starts
  obtain ⟨more, rfl⟩ := hfront
  exact ⟨c, rest ++ more, rfl, hc⟩

theorem Rule.not_applies_lineBreak_apostrophe (rest : Text) :
    ¬Rule.lineBreak.Applies surface (Text.apostrophe :: rest) := by
  intro h
  obtain ⟨c, more, heq, hc⟩ := h.starts
  obtain rfl := (List.cons.inj heq).1
  rcases hc with hc | hc
  · exact absurd hc (by decide)
  · exact absurd hc (by decide)

/-- No literal stands where a rule applies that comes after the one for literals. -/
theorem Rule.Applies.not_string (h : rule.Applies surface text)
    (hrank : Rule.string.rank < rule.rank) : ¬Rule.string.Applies surface text := by
  intro hstring
  obtain ⟨c, rest, rfl, rfl⟩ := hstring.starts
  cases rule <;> simp [rank] at hrank
  exact not_applies_lineBreak_apostrophe rest h

/-! ## Each rule takes its longest lexeme -/

namespace Rule

theorem longest_of_scanIdentifier
    (h : scanIdentifier surface.isLetter text = some (.token token lexeme)) :
    Rule.identifier.Longest surface text token lexeme := by
  simp only [scanIdentifier] at h
  split at h
  · simp at h
  next hne =>
    simp only [Option.some.injEq, Scan.token.injEq] at h
    obtain ⟨rfl, rfl⟩ := h
    refine ⟨Lexeme.identifier (by simpa using hne) fun c hc => List.mem_takeWhile_imp hc,
      List.takeWhile_prefix _, ?_⟩
    intro token' lexeme' hwritten hfront
    cases hwritten with
    | identifier _ hletters =>
      obtain ⟨rest, rfl⟩ := hfront
      rw [List.takeWhile_append_of_pos hletters, List.length_append]
      omega

theorem scanIdentifier_of_prefix (h : Lexeme surface .identifier token lexeme)
    (hfront : lexeme <+: text) :
    ∃ name, scanIdentifier surface.isLetter text = some (.token (.identifier name) name) := by
  cases h with
  | identifier hne hletters =>
    obtain ⟨rest, rfl⟩ := hfront
    refine ⟨_, if_neg ?_⟩
    rw [List.takeWhile_append_of_pos hletters, List.isEmpty_iff, List.append_eq_nil_iff]
    exact fun hnil => hne hnil.1

theorem longest_of_scanNumber (h : scanNumber text = some (.token token lexeme)) :
    Rule.number.Longest surface text token lexeme := by
  obtain ⟨numeral, hnumeral, heq⟩ := Option.map_eq_some_iff.mp h
  obtain ⟨rfl, rfl⟩ := Scan.token.inj heq
  have hwell := Numeral.wellFormed_of_atFront? hnumeral
  refine ⟨Lexeme.number hwell.isNumeral hwell.ofText?_lexeme,
    Numeral.lexeme_prefix_of_atFront? hnumeral, ?_⟩
  intro token' lexeme' hwritten hfront
  cases hwritten with
  | number hnumeral' _ =>
    obtain ⟨longest, hlongest, hle⟩ := Numeral.exists_atFront?_of_prefix hnumeral' hfront
    rw [hnumeral] at hlongest
    obtain rfl := Option.some.inj hlongest
    exact hle

theorem scanNumber_of_prefix (h : Lexeme surface .number token lexeme)
    (hfront : lexeme <+: text) :
    ∃ numeral : Numeral, scanNumber text = some (.token (.number numeral.value) numeral.lexeme) := by
  cases h with
  | number hnumeral _ =>
    obtain ⟨numeral, hfound, -⟩ := Numeral.exists_atFront?_of_prefix hnumeral hfront
    exact ⟨numeral, by rw [scanNumber, hfound]; rfl⟩

theorem longest_of_scanOperator (hoperators : surface.operators = true)
    (h : scanOperator text = some (.token token lexeme)) :
    Rule.operator.Longest surface text token lexeme := by
  obtain ⟨op, hop, heq⟩ := Option.map_eq_some_iff.mp h
  obtain ⟨rfl, rfl⟩ := Scan.token.inj heq
  rw [Option.orElse_eq_orElse, Option.orElse_eq_or, Option.or_eq_some_iff] at hop
  simp only [Operator.ofSymbol?_eq_some_iff] at hop
  refine ⟨Lexeme.operator hoperators op, ?_, ?_⟩
  · rcases hop with hop | ⟨-, hop⟩
    · rw [hop]; exact List.take_prefix 2 text
    · rw [hop]; exact List.take_prefix 1 text
  · intro token' lexeme' hwritten hfront
    cases hwritten with
    | operator _ op' =>
      have hlength := op'.length_symbol
      rcases hop with hop | ⟨hnone, -⟩
      · rw [hop, List.length_take]
        have := hfront.length_le
        omega
      · -- a compound operator would have been found first
        have hne : op'.symbol.length ≠ 2 := by
          intro htwo
          have htake := List.prefix_iff_eq_take.mp hfront
          rw [htwo] at htake
          rw [Operator.ofSymbol?_eq_some_iff.mpr htake] at hnone
          simp at hnone
        have := op.length_symbol
        omega

theorem scanOperator_of_prefix (h : Lexeme surface .operator token lexeme)
    (hfront : lexeme <+: text) :
    ∃ op : Operator, scanOperator text = some (.token (.operator op) op.symbol) := by
  cases h with
  | operator _ op =>
    have htake := List.prefix_iff_eq_take.mp hfront
    have hlength := op.length_symbol
    simp only [scanOperator, Option.orElse_eq_orElse, Option.orElse_eq_or]
    cases hcompound : Operator.ofSymbol? (text.take 2) with
    | some op' => exact ⟨op', rfl⟩
    | none =>
      have hone : op.symbol.length = 1 := by
        by_contra hne
        have htwo : op.symbol.length = 2 := by omega
        rw [htwo] at htake
        rw [Operator.ofSymbol?_eq_some_iff.mpr htake] at hcompound
        simp at hcompound
      rw [hone] at htake
      exact ⟨op, by rw [Operator.ofSymbol?_eq_some_iff.mpr htake]; rfl⟩

theorem scanString_apostrophe (rest : Text) :
    scanString (Text.apostrophe :: rest) =
      match Literal.read rest with
      | .closed slices => some (.token (.string (Literal.value slices)) (Literal.lexeme slices))
      | .faulty fault passed => some (.faulty fault (Text.apostrophe :: passed)) := by
  cases hread : Literal.read rest with
  | closed slices => simp only [scanString, hread]
  | faulty fault passed => simp only [scanString, hread]

theorem exists_apostrophe_of_scanString {found : Scan} (h : scanString text = some found) :
    ∃ rest, text = Text.apostrophe :: rest := by
  unfold scanString at h
  split at h
  next rest => exact ⟨rest, rfl⟩
  · simp at h

theorem longest_of_scanString (h : scanString text = some (.token token lexeme)) :
    Rule.string.Longest surface text token lexeme := by
  obtain ⟨rest, rfl⟩ := exists_apostrophe_of_scanString h
  rw [scanString_apostrophe] at h
  have hreads := Literal.reads_read rest
  cases hread : Literal.read rest with
  | faulty fault passed => simp [hread] at h
  | closed slices =>
    rw [hread] at h hreads
    simp only [Option.some.injEq, Scan.token.injEq] at h
    obtain ⟨rfl, rfl⟩ := h
    cases hreads with
    | @closed body _ hbody hslices hvalue after =>
      rw [Literal.value, Literal.lexeme, hslices, hvalue]
      refine ⟨Lexeme.string hbody, ⟨after, by simp⟩, ?_⟩
      intro token' lexeme' hwritten hfront
      cases hwritten with
      | @string body' hbody' =>
        -- both bodies end at the first apostrophe that is not escaped
        obtain ⟨more, hmore⟩ := hfront
        simp only [List.cons_append, List.append_assoc, List.nil_append, List.cons.injEq,
          true_and] at hmore
        obtain ⟨rfl, -, -⟩ := hbody'.append_inj hbody rfl rfl hmore
        exact le_rfl

theorem scanString_of_prefix (h : Lexeme surface .string token lexeme)
    (hfront : lexeme <+: text) :
    ∃ value lexeme', scanString text = some (.token (.string value) lexeme') := by
  cases h with
  | @string body hbody =>
    obtain ⟨after, rfl⟩ := hfront
    obtain ⟨slices, hread, -, -⟩ := Literal.read_body_apostrophe hbody after
    refine ⟨Literal.value slices, Literal.lexeme slices, ?_⟩
    rw [List.cons_append, List.append_assoc, List.singleton_append, scanString_apostrophe, hread]

theorem longest_of_scanLineBreak (h : scanLineBreak text = some (.token token lexeme)) :
    Rule.lineBreak.Longest surface text token lexeme := by
  unfold scanLineBreak at h
  split at h
  · obtain ⟨rfl, rfl⟩ := Scan.token.inj (Option.some.inj h)
    refine ⟨Lexeme.lineFeed, ⟨_, rfl⟩, ?_⟩
    intro token' lexeme' hwritten hfront
    cases hwritten with
    | lineFeed => exact le_rfl
    | carriageReturn => exact absurd (List.cons_prefix_cons.mp hfront).1 (by decide)
  · obtain ⟨rfl, rfl⟩ := Scan.token.inj (Option.some.inj h)
    refine ⟨Lexeme.carriageReturn, ⟨_, rfl⟩, ?_⟩
    intro token' lexeme' hwritten hfront
    cases hwritten with
    | lineFeed => decide
    | carriageReturn => exact le_rfl
  · simp at h

theorem scanLineBreak_of_prefix (h : Lexeme surface .lineBreak token lexeme)
    (hfront : lexeme <+: text) :
    ∃ lexeme', scanLineBreak text = some (.token .lineBreak lexeme') := by
  obtain ⟨rest, rfl⟩ := hfront
  cases h with
  | lineFeed => exact ⟨_, rfl⟩
  | carriageReturn => exact ⟨_, rfl⟩

/-- The rule belongs to the language. -/
def isOffered (surface : Surface) : Rule → Bool
  | .operator => surface.operators
  | _ => true

/-- The token that a rule finds has the longest lexeme of the rule. -/
theorem longest_of_scan (hoffered : rule.isOffered surface = true)
    (h : rule.scan surface text = some (.token token lexeme)) :
    rule.Longest surface text token lexeme := by
  cases rule with
  | identifier => exact longest_of_scanIdentifier h
  | number => exact longest_of_scanNumber h
  | operator => exact longest_of_scanOperator hoffered h
  | string => exact longest_of_scanString h
  | lineBreak => exact longest_of_scanLineBreak h

/-- A rule that applies finds a token. -/
theorem scan_of_applies (h : rule.Applies surface text) :
    ∃ token lexeme, rule.scan surface text = some (.token token lexeme) := by
  obtain ⟨token, lexeme, hwritten, hfront⟩ := h
  cases rule with
  | identifier =>
    obtain ⟨name, hscan⟩ := scanIdentifier_of_prefix hwritten hfront
    exact ⟨_, _, hscan⟩
  | number =>
    obtain ⟨numeral, hscan⟩ := scanNumber_of_prefix hwritten hfront
    exact ⟨_, _, hscan⟩
  | operator =>
    obtain ⟨op, hscan⟩ := scanOperator_of_prefix hwritten hfront
    exact ⟨_, _, hscan⟩
  | string =>
    obtain ⟨value, lexeme', hscan⟩ := scanString_of_prefix hwritten hfront
    exact ⟨_, _, hscan⟩
  | lineBreak =>
    obtain ⟨lexeme', hscan⟩ := scanLineBreak_of_prefix hwritten hfront
    exact ⟨_, _, hscan⟩

theorem isOffered_of_applies (h : rule.Applies surface text) : rule.isOffered surface = true := by
  obtain ⟨token, lexeme, hwritten, -⟩ := h
  cases hwritten with
  | operator hoperators _ => exact hoperators
  | _ => rfl

/-- A literal is the only construct that can be at fault. -/
theorem scan_eq_faulty_iff {fault : Literal.Fault} {passed : Text} :
    rule.scan surface text = some (.faulty fault passed) ↔
      rule = .string ∧ ∃ rest read, text = Text.apostrophe :: rest ∧
        Literal.read rest = .faulty fault read ∧ passed = Text.apostrophe :: read := by
  constructor
  · intro h
    cases rule with
    | identifier =>
      simp only [scan, scanIdentifier] at h
      split at h <;> simp at h
    | number => simp [scan, scanNumber] at h
    | operator => simp [scan, scanOperator] at h
    | string =>
      obtain ⟨rest, rfl⟩ := exists_apostrophe_of_scanString h
      rw [scan, scanString_apostrophe] at h
      cases hread : Literal.read rest with
      | closed slices => simp [hread] at h
      | faulty fault' read =>
        rw [hread] at h
        obtain ⟨rfl, rfl⟩ := Scan.faulty.inj (Option.some.inj h)
        exact ⟨rfl, rest, read, rfl, hread, rfl⟩
    | lineBreak =>
      simp only [scan, scanLineBreak] at h
      split at h <;> simp at h
  · rintro ⟨rfl, rest, read, rfl, hread, rfl⟩
    rw [scan, scanString_apostrophe, hread]

/-! ## The order of the rules -/

theorem mem_inOrder : rule ∈ inOrder surface ↔ rule.isOffered surface = true := by
  cases h : surface.operators <;> cases rule <;> simp [inOrder, isOffered, h]

theorem pairwise_inOrder (surface : Surface) :
    (inOrder surface).Pairwise fun a b => a.rank < b.rank := by
  cases h : surface.operators <;> simp [inOrder, h, rank]

end Rule

namespace Surface

/-- The scan gives what the first rule finds that finds anything. -/
theorem scan_eq_some_iff {found : Scan} :
    surface.scan text = some found ↔
      ∃ rule : Rule, rule.isOffered surface = true ∧ rule.scan surface text = some found ∧
        ∀ earlier : Rule, earlier.rank < rule.rank → earlier.isOffered surface = true →
          earlier.scan surface text = none := by
  have hsorted := Rule.pairwise_inOrder surface
  rw [scan, List.findSome?_eq_some_iff]
  constructor
  · rintro ⟨before, rule, after, hsplit, hfound, hnone⟩
    rw [hsplit] at hsorted
    have hmem : rule ∈ Rule.inOrder surface := by simp [hsplit]
    refine ⟨rule, Rule.mem_inOrder.mp hmem, hfound, fun earlier hrank hoffered => ?_⟩
    have hearlier : earlier ∈ before ++ rule :: after := hsplit ▸ Rule.mem_inOrder.mpr hoffered
    rw [List.pairwise_append, List.pairwise_cons] at hsorted
    -- the list is sorted by rank, so a rule of lower rank is among those before
    rcases List.mem_append.mp hearlier with hbefore | hafter
    · exact hnone earlier hbefore
    · rcases List.mem_cons.mp hafter with rfl | hafter
      · omega
      · have := hsorted.2.1.1 earlier hafter
        omega
  · rintro ⟨rule, hoffered, hfound, hnone⟩
    obtain ⟨before, after, hsplit⟩ := List.append_of_mem (Rule.mem_inOrder.mpr hoffered)
    refine ⟨before, rule, after, hsplit, hfound, fun earlier hearlier => ?_⟩
    have hmem : earlier ∈ Rule.inOrder surface := by simp [hsplit, hearlier]
    rw [hsplit, List.pairwise_append] at hsorted
    exact hnone earlier (hsorted.2.2 earlier hearlier rule (by simp)) (Rule.mem_inOrder.mp hmem)

/-- **Maximal munch.** The scan finds a token exactly if the first rule that applies has it as
its longest lexeme. -/
theorem scan_eq_token_iff :
    surface.scan text = some (.token token lexeme) ↔
      ∃ rule, Munch surface rule text token lexeme := by
  rw [scan_eq_some_iff]
  constructor
  · rintro ⟨rule, hoffered, hfound, hnone⟩
    refine ⟨rule, Rule.longest_of_scan hoffered hfound, fun earlier hrank happlies => ?_⟩
    obtain ⟨token', lexeme', hscan⟩ := Rule.scan_of_applies happlies
    rw [hnone earlier hrank (Rule.isOffered_of_applies happlies)] at hscan
    simp at hscan
  · rintro ⟨rule, hmunch⟩
    have happlies := hmunch.applies
    have hoffered := Rule.isOffered_of_applies happlies
    refine ⟨rule, hoffered, ?_, fun earlier hrank hoffered' => ?_⟩
    · obtain ⟨token', lexeme', hscan⟩ := Rule.scan_of_applies happlies
      obtain ⟨rfl, rfl⟩ := hmunch.unique (Rule.longest_of_scan hoffered hscan)
      exact hscan
    · cases hscan : earlier.scan surface text with
      | none => rfl
      | some found =>
        exfalso
        cases found with
        | token token' lexeme' =>
          exact hmunch.first earlier hrank (Rule.longest_of_scan hoffered' hscan).applies
        | faulty fault passed =>
          -- only line breaks come after literals, and they start with another character
          obtain ⟨rfl, rest, -, rfl, -, -⟩ := Rule.scan_eq_faulty_iff.mp hscan
          cases rule <;> simp [Rule.rank] at hrank
          exact Rule.not_applies_lineBreak_apostrophe rest happlies

/-- A literal at fault is found where no rule applies and an apostrophe stands. -/
theorem scan_eq_faulty_iff {fault : Literal.Fault} {passed : Text} :
    surface.scan text = some (.faulty fault passed) ↔
      (∀ rule : Rule, ¬rule.Applies surface text) ∧
      ∃ rest read, text = Text.apostrophe :: rest ∧
        Literal.read rest = .faulty fault read ∧ passed = Text.apostrophe :: read := by
  rw [scan_eq_some_iff]
  constructor
  · rintro ⟨rule, hoffered, hfound, hnone⟩
    obtain ⟨rfl, rest, read, rfl, hread, rfl⟩ := Rule.scan_eq_faulty_iff.mp hfound
    refine ⟨fun rule happlies => ?_, rest, read, rfl, hread, rfl⟩
    obtain ⟨token', lexeme', hscan⟩ := Rule.scan_of_applies happlies
    -- a rule of lower rank has found nothing, and the others need another first character
    by_cases hrank : rule.rank < Rule.string.rank
    · rw [hnone rule hrank (Rule.isOffered_of_applies happlies)] at hscan
      simp at hscan
    · cases rule <;> simp [Rule.rank] at hrank
      · rw [hfound] at hscan
        simp at hscan
      · exact Rule.not_applies_lineBreak_apostrophe rest happlies
  · rintro ⟨hblocked, rest, read, rfl, hread, rfl⟩
    refine ⟨.string, rfl, Rule.scan_eq_faulty_iff.mpr ⟨rfl, rest, read, rfl, hread, rfl⟩,
      fun earlier hrank hoffered => ?_⟩
    cases hscan : earlier.scan surface (Text.apostrophe :: rest) with
    | none => rfl
    | some found =>
      exfalso
      cases found with
      | token token' lexeme' =>
        exact hblocked earlier (Rule.longest_of_scan hoffered hscan).applies
      | faulty fault passed =>
        obtain ⟨rfl, -⟩ := Rule.scan_eq_faulty_iff.mp hscan
        exact absurd hrank (lt_irrefl _)

/-- Nothing is found where no rule applies and no apostrophe stands. -/
theorem scan_eq_none_iff :
    surface.scan text = none ↔
      (∀ rule : Rule, ¬rule.Applies surface text) ∧ text.head? ≠ some Text.apostrophe := by
  constructor
  · intro h
    have hnone : ∀ rule : Rule, rule.isOffered surface = true → rule.scan surface text = none := by
      intro rule hoffered
      rw [scan, List.findSome?_eq_none_iff] at h
      exact h rule (Rule.mem_inOrder.mpr hoffered)
    refine ⟨fun rule happlies => ?_, fun hhead => ?_⟩
    · obtain ⟨token', lexeme', hscan⟩ := Rule.scan_of_applies happlies
      rw [hnone rule (Rule.isOffered_of_applies happlies)] at hscan
      simp at hscan
    · obtain ⟨rest, rfl⟩ := List.head?_eq_some_iff.mp hhead
      have hstring := hnone .string rfl
      rw [Rule.scan, Rule.scanString_apostrophe] at hstring
      split at hstring <;> simp at hstring
  · rintro ⟨hblocked, hhead⟩
    cases hscan : surface.scan text with
    | none => rfl
    | some found =>
      exfalso
      cases found with
      | token token' lexeme' =>
        obtain ⟨rule, hmunch⟩ := scan_eq_token_iff.mp hscan
        exact hblocked rule hmunch.applies
      | faulty fault passed =>
        obtain ⟨-, rest, -, rfl, -, -⟩ := scan_eq_faulty_iff.mp hscan
        exact hhead rfl

end Surface

end ScriptLexer
