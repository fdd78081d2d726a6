import Mathlib.Data.List.Basic
import Mathlib.Data.List.Count

/-!
# Reading quoted literals

A literal reader takes the text after an opening quote and yields the value of
the literal together with the text after its closing quote.  Two families of
readers are described by the laws they obey: those that only know doubled
quotes, and those that also undo an escape symbol.  An encoding that a reader
undoes symbol by symbol is undone on whole texts; a text put between quotes
without any encoding is read back exactly when it holds neither the quote nor
the terminator of the text.
-/

namespace LiteralLexing

variable {Symbol : Type*}

abbrev Reader (Symbol : Type*) :=
  List Symbol → Option (List Symbol × List Symbol)

def prepend (symbols : List Symbol) (literal : List Symbol × List Symbol) :
    List Symbol × List Symbol :=
  (symbols ++ literal.1, literal.2)

@[simp] theorem prepend_nil (literal : List Symbol × List Symbol) :
    prepend [] literal = literal := rfl

theorem prepend_prepend
    (first second : List Symbol) (literal : List Symbol × List Symbol) :
    prepend first (prepend second literal) = prepend (first ++ second) literal := by
  unfold prepend
  rw [List.append_assoc]

/-- The literal that starts with an opening quote at a position of a query. -/
def literalAt [DecidableEq Symbol] (read : Reader Symbol) (quote : Symbol)
    (query : List Symbol) (position : ℕ) : Option (List Symbol × List Symbol) :=
  match query.drop position with
  | [] => none
  | symbol :: body => if symbol = quote then read body else none

theorem literalAt_append
    [DecidableEq Symbol] (read : Reader Symbol) (quote : Symbol)
    (before body : List Symbol) :
    literalAt read quote (before ++ quote :: body) before.length = read body := by
  unfold literalAt
  rw [List.drop_left]
  simp

/-! ## Encodings that a reader undoes -/

def Undoes (read : Reader Symbol) (encode : Symbol → List Symbol) : Prop :=
  ∀ symbol rest,
    read (encode symbol ++ rest) = (read rest).map (prepend [symbol])

theorem Undoes.read_flatMap
    {read : Reader Symbol} {encode : Symbol → List Symbol}
    (hundoes : Undoes read encode) (text rest : List Symbol) :
    read (text.flatMap encode ++ rest) = (read rest).map (prepend text) := by
  induction text with
  | nil =>
      simp only [List.flatMap_nil, List.nil_append]
      cases read rest with
      | none => simp
      | some literal => simp
  | cons symbol text ih =>
      rw [List.flatMap_cons, List.append_assoc, hundoes, ih]
      cases read rest with
      | none => simp
      | some literal => simp [prepend_prepend]

/-! ## Readers that only know doubled quotes -/

structure QuoteDoubling
    (read : Reader Symbol) (quote terminator : Symbol) : Prop where
  unterminated : read [] = none
  terminated : ∀ rest, read (terminator :: rest) = none
  plain : ∀ symbol rest, symbol ≠ quote → symbol ≠ terminator →
    read (symbol :: rest) = (read rest).map (prepend [symbol])
  doubled : ∀ rest,
    read (quote :: quote :: rest) = (read rest).map (prepend [quote])
  closed : ∀ rest, rest.head? ≠ some quote →
    read (quote :: rest) = some ([], rest)

/-- The rule for what such a reader yields: one case for the closing quote, one
for a symbol read as itself and one for a doubled quote. -/
theorem QuoteDoubling.read_induction
    [DecidableEq Symbol] {read : Reader Symbol} {quote terminator : Symbol}
    (hreader : QuoteDoubling read quote terminator)
    {Yields : List Symbol → List Symbol → List Symbol → Prop}
    (hclosed : ∀ rest, Yields (quote :: rest) [] rest)
    (hplain : ∀ symbol text value rest, symbol ≠ quote → symbol ≠ terminator →
      Yields text value rest → Yields (symbol :: text) (symbol :: value) rest)
    (hdoubled : ∀ text value rest, Yields text value rest →
      Yields (quote :: quote :: text) (quote :: value) rest) :
    ∀ {text value rest : List Symbol}, read text = some (value, rest) →
      Yields text value rest
  | [], value, rest, hread => by
      rw [hreader.unterminated] at hread
      simp at hread
  | [symbol], value, rest, hread => by
      by_cases hquote : symbol = quote
      · subst symbol
        rw [hreader.closed [] (by simp)] at hread
        simp only [Option.some.injEq, Prod.mk.injEq] at hread
        rw [← hread.1, ← hread.2]
        exact hclosed []
      · by_cases hterminator : symbol = terminator
        · subst symbol
          rw [hreader.terminated] at hread
          simp at hread
        · rw [hreader.plain symbol [] hquote hterminator,
            hreader.unterminated] at hread
          simp at hread
  | symbol :: next :: text, value, rest, hread => by
      by_cases hquote : symbol = quote
      · subst symbol
        by_cases hnext : next = quote
        · subst next
          rw [hreader.doubled] at hread
          rcases Option.map_eq_some_iff.mp hread with ⟨inner, hinner, hvalue⟩
          have hyields := hreader.read_induction hclosed hplain hdoubled hinner
          simp only [prepend, List.singleton_append, Prod.mk.injEq] at hvalue
          rw [← hvalue.1, ← hvalue.2]
          exact hdoubled text inner.1 inner.2 hyields
        · rw [hreader.closed (next :: text) (by simpa using hnext)] at hread
          simp only [Option.some.injEq, Prod.mk.injEq] at hread
          rw [← hread.1, ← hread.2]
          exact hclosed (next :: text)
      · by_cases hterminator : symbol = terminator
        · subst symbol
          rw [hreader.terminated] at hread
          simp at hread
        · rw [hreader.plain symbol _ hquote hterminator] at hread
          rcases Option.map_eq_some_iff.mp hread with ⟨inner, hinner, hvalue⟩
          have hyields := hreader.read_induction hclosed hplain hdoubled hinner
          simp only [prepend, List.singleton_append, Prod.mk.injEq] at hvalue
          rw [← hvalue.1, ← hvalue.2]
          exact hplain symbol (next :: text) inner.1 inner.2
            hquote hterminator hyields

/-- What a reader yields accounts for every symbol it consumed: one for each
symbol of the value, one more for each quote in it, and the closing quote. -/
theorem QuoteDoubling.length_of_read
    [DecidableEq Symbol] {read : Reader Symbol} {quote terminator : Symbol}
    (hreader : QuoteDoubling read quote terminator)
    {text value rest : List Symbol} (hread : read text = some (value, rest)) :
    text.length = value.length + value.count quote + rest.length + 1 := by
  apply hreader.read_induction _ _ _ hread
  · intro rest
    simp
  · intro symbol text value rest hquote _ ih
    simp only [List.length_cons, List.count_cons_of_ne hquote, ih]
    omega
  · intro text value rest ih
    simp only [List.length_cons, List.count_cons_self, ih]
    omega

theorem QuoteDoubling.terminator_notMem_value
    [DecidableEq Symbol] {read : Reader Symbol} {quote terminator : Symbol}
    (hreader : QuoteDoubling read quote terminator)
    (hdistinct : quote ≠ terminator)
    {text value rest : List Symbol} (hread : read text = some (value, rest)) :
    terminator ∉ value := by
  apply hreader.read_induction _ _ _ hread
  · intro rest
    simp
  · intro symbol text value rest _ hterminator ih
    simp [Ne.symm hterminator, ih]
  · intro text value rest ih
    simp [Ne.symm hdistinct, ih]

theorem QuoteDoubling.read_verbatim
    {read : Reader Symbol} {quote terminator : Symbol}
    (hreader : QuoteDoubling read quote terminator)
    {text rest : List Symbol} (hquote : quote ∉ text)
    (hterminator : terminator ∉ text) (hrest : rest.head? ≠ some quote) :
    read (text ++ quote :: rest) = some (text, rest) := by
  induction text with
  | nil => exact hreader.closed rest hrest
  | cons symbol text ih =>
      simp only [List.mem_cons, not_or] at hquote hterminator
      rw [List.cons_append,
        hreader.plain _ _ (Ne.symm hquote.1) (Ne.symm hterminator.1),
        ih hquote.2 hterminator.2]
      simp [prepend]

/-- A text between quotes is its own literal exactly when it holds neither the
quote nor the terminator. -/
theorem QuoteDoubling.read_verbatim_iff
    [DecidableEq Symbol] {read : Reader Symbol} {quote terminator : Symbol}
    (hreader : QuoteDoubling read quote terminator)
    (hdistinct : quote ≠ terminator)
    {text rest : List Symbol} (hrest : rest.head? ≠ some quote) :
    read (text ++ quote :: rest) = some (text, rest) ↔
      quote ∉ text ∧ terminator ∉ text := by
  constructor
  · intro hread
    constructor
    · have hlength := hreader.length_of_read hread
      have hcount : text.count quote = 0 := by
        simp only [List.length_append, List.length_cons] at hlength
        omega
      exact List.count_eq_zero.mp hcount
    · exact hreader.terminator_notMem_value hdistinct hread
  · intro habsent
    exact hreader.read_verbatim habsent.1 habsent.2 hrest

/-! ## Readers that also undo an escape symbol -/

structure EscapeReading
    (read : Reader Symbol) (quote escape : Symbol)
    (reserved : Symbol → Prop) (decode : Symbol → Symbol) : Prop where
  plain : ∀ symbol rest, ¬ reserved symbol →
    read (symbol :: rest) = (read rest).map (prepend [symbol])
  escaped : ∀ code rest,
    read (escape :: code :: rest) = (read rest).map (prepend [decode code])
  closed : ∀ rest, rest.head? ≠ some quote →
    read (quote :: rest) = some ([], rest)

def escapeWith (escape : Symbol) (codeOf : Symbol → Option Symbol)
    (symbol : Symbol) : List Symbol :=
  match codeOf symbol with
  | some code => [escape, code]
  | none => [symbol]

theorem EscapeReading.undoes
    {read : Reader Symbol} {quote escape : Symbol} {reserved : Symbol → Prop}
    {decode : Symbol → Symbol} {codeOf : Symbol → Option Symbol}
    (hreader : EscapeReading read quote escape reserved decode)
    (hdecode : ∀ symbol code, codeOf symbol = some code → decode code = symbol)
    (hreserved : ∀ symbol, codeOf symbol = none → ¬ reserved symbol) :
    Undoes read (escapeWith escape codeOf) := by
  intro symbol rest
  unfold escapeWith
  cases hcode : codeOf symbol with
  | some code =>
      simp only [List.cons_append, List.nil_append]
      rw [hreader.escaped, hdecode symbol code hcode]
  | none =>
      simp only [List.cons_append, List.nil_append]
      exact hreader.plain symbol rest (hreserved symbol hcode)

theorem EscapeReading.read_escaped
    {read : Reader Symbol} {quote escape : Symbol} {reserved : Symbol → Prop}
    {decode : Symbol → Symbol} {codeOf : Symbol → Option Symbol}
    (hreader : EscapeReading read quote escape reserved decode)
    (hdecode : ∀ symbol code, codeOf symbol = some code → decode code = symbol)
    (hreserved : ∀ symbol, codeOf symbol = none → ¬ reserved symbol)
    (text : List Symbol) {rest : List Symbol} (hrest : rest.head? ≠ some quote) :
    read (text.flatMap (escapeWith escape codeOf) ++ quote :: rest) =
      some (text, rest) := by
  rw [(hreader.undoes hdecode hreserved).read_flatMap, hreader.closed rest hrest]
  simp [prepend]

theorem length_flatMap_escapeWith_le
    (escape : Symbol) (codeOf : Symbol → Option Symbol) (text : List Symbol) :
    (text.flatMap (escapeWith escape codeOf)).length ≤ 2 * text.length := by
  induction text with
  | nil => simp
  | cons symbol text ih =>
      have hsymbol : (escapeWith escape codeOf symbol).length ≤ 2 := by
        unfold escapeWith
        cases codeOf symbol with
        | some code => simp
        | none => simp
      simp only [List.flatMap_cons, List.length_append, List.length_cons]
      omega

/-! ## An executable reader of each family -/

/-- The reader with doubled quotes and, where `decode` gives one, an
escape symbol. -/
def readWith [DecidableEq Symbol] (quote terminator : Symbol)
    (escape : Option Symbol) (decode : Symbol → Symbol) : Reader Symbol
  | [] => none
  | [symbol] => if symbol = quote then some ([], []) else none
  | symbol :: next :: rest =>
      if symbol = terminator then none
      else if some symbol = escape then
        (readWith quote terminator escape decode rest).map
          (prepend [decode next])
      else if symbol = quote then
        if next = quote then
          (readWith quote terminator escape decode rest).map (prepend [quote])
        else some ([], next :: rest)
      else
        (readWith quote terminator escape decode (next :: rest)).map
          (prepend [symbol])

section

variable [DecidableEq Symbol] {quote terminator : Symbol}

theorem readWith_closed
    (hdistinct : quote ≠ terminator) {escape : Option Symbol}
    (hescape : some quote ≠ escape) (decode : Symbol → Symbol)
    {rest : List Symbol} (hrest : rest.head? ≠ some quote) :
    readWith quote terminator escape decode (quote :: rest) =
      some ([], rest) := by
  cases rest with
  | nil => simp [readWith]
  | cons next rest =>
      have hnext : next ≠ quote := by simpa using hrest
      simp [readWith, hdistinct, hescape, hnext]

theorem readWith_plain
    {escape : Option Symbol} (decode : Symbol → Symbol) {symbol : Symbol}
    (hquote : symbol ≠ quote) (hterminator : symbol ≠ terminator)
    (hescape : some symbol ≠ escape) (rest : List Symbol) :
    readWith quote terminator escape decode (symbol :: rest) =
      (readWith quote terminator escape decode rest).map (prepend [symbol]) := by
  cases rest with
  | nil => simp [readWith, hquote]
  | cons next rest => simp [readWith, hquote, hterminator, hescape]

theorem readWith_quoteDoubling
    (hdistinct : quote ≠ terminator) (decode : Symbol → Symbol) :
    QuoteDoubling (readWith quote terminator none decode) quote terminator where
  unterminated := by simp [readWith]
  terminated rest := by
    cases rest with
    | nil => simp [readWith, hdistinct.symm]
    | cons next rest => simp [readWith]
  plain symbol rest hquote hterminator :=
    readWith_plain decode hquote hterminator (by simp) rest
  doubled rest := by simp [readWith, hdistinct]
  closed rest hrest := readWith_closed hdistinct (by simp) decode hrest

theorem readWith_escapeReading
    {escape : Symbol} (hdistinct : quote ≠ terminator)
    (hquote : quote ≠ escape) (hterminator : escape ≠ terminator)
    (decode : Symbol → Symbol) :
    EscapeReading (readWith quote terminator (some escape) decode) quote escape
      (fun symbol => symbol = quote ∨ symbol = escape ∨ symbol = terminator)
      decode where
  plain symbol rest hreserved := by
    simp only [not_or] at hreserved
    exact readWith_plain decode hreserved.1 hreserved.2.2
      (by simpa using hreserved.2.1) rest
  escaped code rest := by simp [readWith, hterminator]
  closed rest hrest := readWith_closed hdistinct (by simpa using hquote) decode hrest

end

end LiteralLexing
