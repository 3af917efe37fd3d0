import DeskCalculator.CommandLine.Chat
import DeskCalculator.Proofs.Calculator
import DeskCalculator.Proofs.Outcome
import DeskCalculator.Proofs.Text.Lines
import DeskCalculator.Proofs.Text.Surroundings
import DeskCalculator.Proofs.Token.Concatenation

/-!
# Messages within longer texts

A word is looked up in the lower-case form of a message.  If all words are in ASCII, a word that
is mentioned in a message is mentioned in every longer one, so that no text around a greeting or a
farewell hides it (`respond_of_surrounded`).

White space around a message mentions no word, has no tokens and is never refused.  So it changes
the reply in one way only: a refused character stands behind the white space at the start
(`respond_between_blanks`).  In particular, lines may be trimmed before they are answered.
-/

namespace DeskCalculator

/-! ### Words -/

namespace Calculator

variable {words : List String} {text front back : List Char}

/-- Every word is in ASCII. -/
def AreAscii (words : List String) : Prop :=
  ∀ word ∈ words, ∀ c ∈ word.toList, c.toNat < 128

instance (words : List String) : Decidable (AreAscii words) :=
  decidable_of_iff (words.all fun word => word.toList.all fun c => c.toNat < 128)
    (by simp [AreAscii])

/-- No word has white space in it. -/
def AreUnspaced (words : List String) : Prop :=
  ∀ word ∈ words, ∀ c ∈ word.toList, ¬ Text.isBlank c

instance (words : List String) : Decidable (AreUnspaced words) :=
  decidable_of_iff (words.all fun word => word.toList.all fun c => !Text.isBlank c)
    (by simp [AreUnspaced])

/-- A text mentions the words that occur in it, but for the empty one. -/
theorem mentions_iff :
  mentions text words ↔ ∃ word ∈ words, word.toList ≠ [] ∧ word.toList <:+: text
  := by
  simp [mentions, Text.occurs_iff]

/-- A word in ASCII that is mentioned in a text is mentioned in every longer text. -/
theorem mentions_lowercase_append (hwords : AreAscii words)
    (h : mentions (Text.lowercase text) words) (before after : List Char) :
  mentions (Text.lowercase (before ++ text ++ after)) words
  := by
  obtain ⟨word, hword, hne, hinfix⟩ := mentions_iff.mp h
  -- the one letter whose small form depends on its neighbours has no small form in ASCII
  have hsigma : ∀ c : Char, 128 ≤ c.toNat → c ∉ word.toList := by
    intro c hc hmem
    exact absurd (hwords word hword c hmem) (Nat.not_lt.mpr hc)
  apply mentions_iff.mpr ⟨word, hword, hne, _⟩
  apply Text.infix_lowercase_append (hsigma 'σ' (by decide)) (hsigma 'ς' (by decide)) hinfix

/-- White space around a text mentions no word without white space. -/
theorem mentions_between_blanks (hwords : AreUnspaced words) (hfront : ∀ c ∈ front, Text.isBlank c)
    (hback : ∀ c ∈ back, Text.isBlank c) (text : List Char) :
  mentions (Text.lowercase (front ++ text ++ back)) words = mentions (Text.lowercase text) words
  := by
  rw [Text.lowercase_between_blanks hfront hback, Bool.eq_iff_iff, mentions_iff, mentions_iff]
  apply exists_congr
  intro word
  apply and_congr_right
  intro hword
  apply and_congr_right
  intro hne
  apply Text.infix_between_blanks_iff hne (hwords word hword) hfront hback

end Calculator

/-! ### Readings of a text between white space -/

namespace Token

open Grammar

variable {gap front back : List Char}

/-- No number reaches over the end of white space. -/
theorem isBoundary_of_isBlank (hgap : ∀ c ∈ gap, Text.isBlank c) (text : List Char) :
  IsBoundary gap text
  := by
  left
  intro c hc
  apply not_isDigit_of_separates
  apply separates_of_isBlank (hgap c (List.mem_of_mem_getLast? hc))

/-- A literal does not go on with white space. -/
theorem endsLiteral_of_isBlank (hgap : ∀ c ∈ gap, Text.isBlank c) :
  EndsLiteral gap
  := by
  intro c hc
  apply not_isDigit_of_separates
  apply separates_of_isBlank (hgap c (List.mem_of_mem_head? hc))

/-- White space has no tokens. -/
theorem scanChars_blanks (hgap : ∀ c ∈ gap, Text.isBlank c) :
  scanChars gap = []
  := by
  have hscan := scanChars_gap_append (fun c hc => separates_of_isBlank (hgap c hc)) []
  rwa [List.append_nil, scanChars_nil] at hscan

/-- White space is accepted. -/
theorem scanCharsStrict_blanks (hgap : ∀ c ∈ gap, Text.isBlank c) :
  scanCharsStrict gap = .ok []
  := by
  have hread := readTokens_gap_append hgap []
  rw [List.append_nil, readTokens_nil] at hread
  rw [scanCharsStrict, hread]

theorem scanChars_between_blanks (hfront : ∀ c ∈ front, Text.isBlank c)
    (hback : ∀ c ∈ back, Text.isBlank c) (text : List Char) :
  scanChars (front ++ text ++ back) = scanChars text
  := by
  rw [scanChars_append (Or.inr (endsLiteral_of_isBlank hback)),
    scanChars_append (isBoundary_of_isBlank hfront text), scanChars_blanks hfront,
    scanChars_blanks hback, List.nil_append, List.append_nil]

/-- Between white space a text is refused as it is alone, behind the white space before it. -/
theorem scanCharsStrict_between_blanks (hfront : ∀ c ∈ front, Text.isBlank c)
    (hback : ∀ c ∈ back, Text.isBlank c) (text : List Char) :
  scanCharsStrict (front ++ text ++ back)
    = (scanCharsStrict text).mapError (Fault.behind (byteLength front))
  := by
  rw [scanCharsStrict_append (Or.inr (endsLiteral_of_isBlank hback)),
    scanCharsStrict_append (isBoundary_of_isBlank hfront text),
    scanCharsStrict_blanks hfront, scanCharsStrict_blanks hback]
  cases scanCharsStrict text with
  | ok tokens => simp [Except.mapError]
  | error fault => rfl

end Token

/-! ### Outcomes and replies -/

/-- A text of white space only. -/
def Text.IsBlankText (text : String) : Prop :=
  ∀ c ∈ text.toList, Text.isBlank c

-- by name, as the characters are finitely many but too many to try
instance (text : String) : Decidable (Text.IsBlankText text) :=
  List.decidableBAll (fun c => Text.isBlank c) text.toList

/-- The reply to a message, as the reply to the message behind a number of bytes. -/
def Reply.behind (bytes : Nat) : Reply → Reply
  | error fault => error (fault.behind bytes)
  | reply => reply

variable {front back : String}

namespace Expression

/-- Either reading of a text between white space. -/
theorem tokens_between_blanks (strict : Bool) (hfront : Text.IsBlankText front)
    (hback : Text.IsBlankText back) (text : String) :
  tokens strict (front ++ text ++ back)
    = (tokens strict text).mapError (Fault.behind front.utf8ByteSize)
  := by
  have htext : (front ++ text ++ back).toList = front.toList ++ text.toList ++ back.toList := by
    rw [String.toList_append, String.toList_append]
  cases strict with
  | false =>
    rw [tokens, if_neg Bool.false_ne_true, Token.scan, htext,
      Token.scanChars_between_blanks hfront hback]
    rfl
  | true =>
    rw [tokens, if_pos rfl, Token.scanStrict, htext,
      Token.scanCharsStrict_between_blanks hfront hback, Token.byteLength_toList]
    rfl

/-- The outcome of a text between white space. -/
theorem value_between_blanks (strict : Bool) (hfront : Text.IsBlankText front)
    (hback : Text.IsBlankText back) (text : String) :
  value strict (front ++ text ++ back)
    = (value strict text).mapError (Fault.behind front.utf8ByteSize)
  := by
  apply value_eq_mapError _ (tokens_between_blanks strict hfront hback text)
  intro read fault hexplains
  cases hexplains <;> rfl

end Expression

namespace Calculator

variable {calculator : Calculator} {message : String}

/-- A message is greeted exactly if it mentions a greeting word. -/
theorem reply_eq_greeting_iff :
  calculator.reply message = .greeting
    ↔ mentions (Text.lowercase message.toList) calculator.greetings
  := by
  rw [reply]
  split
  · next hgreeting => exact iff_of_true rfl hgreeting
  · next hgreeting =>
    apply iff_of_false _ hgreeting
    split
    · simp
    · cases Expression.value calculator.strict message <;> simp

/-- A message ends the conversation exactly if it mentions a farewell word and no greeting word. -/
theorem reply_eq_farewell_iff :
  calculator.reply message = .farewell
    ↔ ¬ mentions (Text.lowercase message.toList) calculator.greetings
      ∧ mentions (Text.lowercase message.toList) calculator.farewells
  := by
  rw [reply]
  split
  · next hgreeting => simp [hgreeting]
  · next hgreeting =>
    split
    · next hfarewell => exact iff_of_true rfl ⟨hgreeting, hfarewell⟩
    · next hfarewell =>
      apply iff_of_false _ fun h => hfarewell h.2
      cases Expression.value calculator.strict message <;> simp

/-- No text around a message hides a greeting or a farewell, if all words are in ASCII.  A farewell
may become a greeting, and in no case the calculator has another result to remember. -/
theorem respond_of_surrounded (calculator : Calculator)
    (hwords : AreAscii (calculator.greetings ++ calculator.farewells))
    (before message after : String) :
  ((calculator.respond message).1 = .greeting →
      (calculator.respond (before ++ message ++ after)).1 = .greeting
        ∧ (calculator.respond (before ++ message ++ after)).2 = calculator)
    ∧ ((calculator.respond message).1 = .farewell →
      ((calculator.respond (before ++ message ++ after)).1 = .farewell
          ∨ (calculator.respond (before ++ message ++ after)).1 = .greeting)
        ∧ (calculator.respond (before ++ message ++ after)).2 = calculator)
  := by
  obtain ⟨hgreetings, hfarewells⟩ := List.forall_mem_append.mp hwords
  have htext : (before ++ message ++ after).toList
      = before.toList ++ message.toList ++ after.toList := by
    rw [String.toList_append, String.toList_append]
  simp only [respond]
  constructor
  · intro hreply
    have hmention := reply_eq_greeting_iff.mp hreply
    have hlonger : calculator.reply (before ++ message ++ after) = .greeting := by
      rw [reply_eq_greeting_iff, htext]
      apply mentions_lowercase_append hgreetings hmention
    rw [hlonger]
    exact ⟨rfl, rfl⟩
  · intro hreply
    obtain ⟨-, hmention⟩ := reply_eq_farewell_iff.mp hreply
    have hfarewell : mentions (Text.lowercase (before ++ message ++ after).toList)
        calculator.farewells := by
      rw [htext]
      apply mentions_lowercase_append hfarewells hmention
    -- the text around the message may mention a greeting word, which is looked up first
    by_cases hgreeting : mentions (Text.lowercase (before ++ message ++ after).toList)
        calculator.greetings
    · rw [reply_eq_greeting_iff.mpr hgreeting]
      exact ⟨Or.inr rfl, rfl⟩
    · rw [reply_eq_farewell_iff.mpr ⟨hgreeting, hfarewell⟩]
      exact ⟨Or.inl rfl, rfl⟩

/-- A calculator with words of one letter. -/
def withLetters (strict : Bool) : Calculator :=
  { greetings := ["i"], farewells := ["k"], strict := strict }

/-- The sigma is final at the end of the message and medial before the letter behind it, while the
Kelvin sign and the letter with a dot have the same small letters in both.  The division by zero is
not looked at. -/
theorem respond_of_surrounded_by_division :
  AreAscii (["i"] ++ ["k"])
    ∧ ((withLetters true).respond "\u212aΣ").1 = .farewell
    ∧ ((withLetters true).respond ("(4 / 0 " ++ "\u212aΣ" ++ "B).")).1 ∈ [.farewell, .greeting]
    ∧ ((withLetters false).respond "İΣ").1 = .greeting
    ∧ (withLetters false).respond ("\u212a 1" ++ "İΣ" ++ "B") = (.greeting, withLetters false)
  := by
  have hwords : AreAscii (["i"] ++ ["k"]) := by decide
  have hfarewell : ((withLetters true).respond "\u212aΣ").1 = .farewell := by decide +kernel
  have hgreeting : ((withLetters false).respond "İΣ").1 = .greeting := by decide +kernel
  have hstrict := (respond_of_surrounded (withLetters true) hwords "(4 / 0 " "\u212aΣ" "B).").2
  have hlenient := (respond_of_surrounded (withLetters false) hwords "\u212a 1" "İΣ" "B").1
  refine ⟨hwords, hfarewell, ?_, hgreeting, ?_⟩
  · apply List.mem_pair.mpr (hstrict hfarewell).1
  · obtain ⟨hreply, hafter⟩ := hlenient hgreeting
    exact Prod.ext hreply hafter

/-! ### White space around messages -/

/-- The reply to a message between white space. -/
theorem reply_between_blanks
    (hwords : AreUnspaced (calculator.greetings ++ calculator.farewells))
    (hfront : Text.IsBlankText front) (hback : Text.IsBlankText back) (message : String) :
  calculator.reply (front ++ message ++ back)
    = (calculator.reply message).behind front.utf8ByteSize
  := by
  obtain ⟨hgreetings, hfarewells⟩ := List.forall_mem_append.mp hwords
  rw [reply, reply, String.toList_append, String.toList_append,
    mentions_between_blanks hgreetings hfront hback,
    mentions_between_blanks hfarewells hfront hback,
    Expression.value_between_blanks calculator.strict hfront hback]
  split
  · rfl
  · split
    · rfl
    · cases Expression.value calculator.strict message <;> rfl

/-- A calculator remembers the same of a reply, wherever its fault stands. -/
theorem remember_behind (calculator : Calculator) (bytes : Nat) (reply : Reply) :
  calculator.remember (reply.behind bytes) = calculator.remember reply
  := by
  cases reply <;> rfl

/-- White space around a message changes its reply in nothing but the offset of a refused character,
which is larger by the number of bytes of the white space at the start; and it does not change what
is remembered.  So a line and the message that is trimmed from it are answered alike.  This holds
of all words without white space, such as the words given by default. -/
theorem respond_between_blanks :
  AreUnspaced (({} : Calculator).greetings ++ ({} : Calculator).farewells)
    ∧ ∀ calculator : Calculator,
      AreUnspaced (calculator.greetings ++ calculator.farewells) →
        (∀ {front back : String}, Text.IsBlankText front → Text.IsBlankText back →
          ∀ message : String,
            (calculator.respond (front ++ message ++ back)).1
                = (calculator.respond message).1.behind front.utf8ByteSize
              ∧ (calculator.respond (front ++ message ++ back)).2
                = (calculator.respond message).2)
          ∧ ∀ line : String,
            (calculator.respond line).1
                = (calculator.respond (CommandLine.messageOf line)).1.behind
                  (Token.byteLength (line.toList.takeWhile Text.isBlank))
              ∧ (calculator.respond line).2
                = (calculator.respond (CommandLine.messageOf line)).2
  := by
  refine ⟨by decide +kernel, ?_⟩
  intro calculator hwords
  have hblanks : ∀ {front back : String}, Text.IsBlankText front → Text.IsBlankText back →
      ∀ message : String,
        (calculator.respond (front ++ message ++ back)).1
            = (calculator.respond message).1.behind front.utf8ByteSize
          ∧ (calculator.respond (front ++ message ++ back)).2
            = (calculator.respond message).2 := by
    intro front back hfront hback message
    rw [respond, respond, reply_between_blanks hwords hfront hback, remember_behind]
    exact ⟨rfl, rfl⟩
  constructor
  · apply hblanks
  · intro line
    obtain ⟨back, hback, hline⟩ := Text.exists_eq_append_trim line.toList
    have hfront : Text.IsBlankText (String.ofList (line.toList.takeWhile Text.isBlank)) := by
      intro c hc
      rw [String.toList_ofList] at hc
      apply List.mem_takeWhile_imp hc
    have hbackText : Text.IsBlankText (String.ofList back) := by
      intro c hc
      rw [String.toList_ofList] at hc
      apply hback c hc
    have htext : String.ofList (line.toList.takeWhile Text.isBlank) ++ CommandLine.messageOf line
        ++ String.ofList back = line := by
      rw [CommandLine.messageOf, ← String.ofList_append, ← String.ofList_append, ← hline,
        String.ofList_toList]
    have hrespond := hblanks hfront hbackText (CommandLine.messageOf line)
    rwa [htext, ← Token.byteLength_toList, String.toList_ofList] at hrespond

/-- A strict calculator that takes the final sigma for a farewell. -/
def withFinalSigma : Calculator :=
  { greetings := ["hi"], farewells := ["ς"], strict := true }

/-- Behind two kinds of wide blanks the cross is refused five bytes later, and the sigma before a
blank is final as it is at the end of the message. -/
theorem respond_between_blanks_around_cross :
  AreUnspaced (["hi"] ++ ["ς"])
    ∧ Text.IsBlankText "\u3000\u0085" ∧ Text.IsBlankText "\u2003"
    ∧ (withFinalSigma.respond ("\u3000\u0085" ++ "2 × Σ" ++ "\u2003")).1
      = .error (.unexpectedCharacter '×' (5 + 2))
    ∧ (withFinalSigma.respond ("\u3000\u0085" ++ "2 × BΣ" ++ "\u2003")).1 = .farewell
  := by
  have hwords : AreUnspaced (["hi"] ++ ["ς"]) := by decide +kernel
  have hfront : Text.IsBlankText "\u3000\u0085" := by decide +kernel
  have hback : Text.IsBlankText "\u2003" := by decide +kernel
  have hrefused : (withFinalSigma.respond "2 × Σ").1 = .error (.unexpectedCharacter '×' 2) := by
    decide +kernel
  have hfarewell : (withFinalSigma.respond "2 × BΣ").1 = .farewell := by decide +kernel
  have hblanks := (respond_between_blanks.2 withFinalSigma hwords).1 hfront hback
  refine ⟨hwords, hfront, hback, ?_, ?_⟩
  · rw [(hblanks _).1, hrefused]
    rfl
  · rw [(hblanks _).1, hfarewell]
    rfl

end Calculator

end DeskCalculator
