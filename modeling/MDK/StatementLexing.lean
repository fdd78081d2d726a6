import MDK.LiteralLexing

/-!
# Reading whole statements

A statement consists of code symbols, which open nothing, and of quoted literals.
Its pieces are what a reader of literals makes of it.  Printing pieces and
reading them again is the identity where each literal is read back and no two
stand side by side; where the values are printed as they are, only then.
-/

namespace LiteralLexing

variable {Symbol : Type*}

inductive Piece (Symbol : Type*) where
  | code (symbol : Symbol)
  | literal (value : List Symbol)
  deriving DecidableEq, Repr

/-- The pieces that a statement is read as. -/
inductive Lexes (read : Reader Symbol) (quote : Symbol)
    (isCode : Symbol → Bool) : List Symbol → List (Piece Symbol) → Prop where
  | nil : Lexes read quote isCode [] []
  | code {symbol : Symbol} {rest : List Symbol} {pieces : List (Piece Symbol)}
      (hcode : isCode symbol = true) (hrest : Lexes read quote isCode rest pieces) :
      Lexes read quote isCode (symbol :: rest) (.code symbol :: pieces)
  | literal {body value rest : List Symbol} {pieces : List (Piece Symbol)}
      (hread : read body = some (value, rest))
      (hrest : Lexes read quote isCode rest pieces) :
      Lexes read quote isCode (quote :: body) (.literal value :: pieces)

variable {read : Reader Symbol} {quote : Symbol} {isCode : Symbol → Bool}

/-- A statement is read in one way. -/
theorem Lexes.unique
    (hquote : isCode quote = false) {text : List Symbol}
    {pieces others : List (Piece Symbol)} (hpieces : Lexes read quote isCode text pieces)
    (hothers : Lexes read quote isCode text others) : pieces = others := by
  induction hpieces generalizing others with
  | nil =>
      cases hothers with
      | nil => rfl
  | code hcode _ ih =>
      cases hothers with
      | code _ hrest => rw [ih hrest]
      | literal => simp [hquote] at hcode
  | literal hread _ ih =>
      cases hothers with
      | code hcode => simp [hquote] at hcode
      | literal hother hrest =>
          rw [hread, Option.some.injEq, Prod.mk.injEq] at hother
          obtain ⟨rfl, rfl⟩ := hother
          rw [ih hrest]

/-! ## Printing -/

def Piece.print (encode : List Symbol → List Symbol) (quote : Symbol) :
    Piece Symbol → List Symbol
  | .code symbol => [symbol]
  | .literal value => quote :: (encode value ++ [quote])

def statementOf (encode : List Symbol → List Symbol) (quote : Symbol)
    (pieces : List (Piece Symbol)) : List Symbol :=
  pieces.flatMap (Piece.print encode quote)

@[simp] theorem statementOf_nil
    (encode : List Symbol → List Symbol) (quote : Symbol) :
    statementOf encode quote [] = [] := rfl

/-- Nothing but code symbols stands outside of the literals, and between two
literals stands one. -/
inductive Separated (isCode : Symbol → Bool) : List (Piece Symbol) → Prop where
  | nil : Separated isCode []
  | code {symbol : Symbol} {pieces : List (Piece Symbol)}
      (hcode : isCode symbol = true) (hrest : Separated isCode pieces) :
      Separated isCode (.code symbol :: pieces)
  | last (value : List Symbol) : Separated isCode [.literal value]
  | literal {symbol : Symbol} {pieces : List (Piece Symbol)}
      (value : List Symbol) (hrest : Separated isCode (.code symbol :: pieces)) :
      Separated isCode (.literal value :: .code symbol :: pieces)

theorem Separated.tail
    {value : List Symbol} {pieces : List (Piece Symbol)}
    (hpieces : Separated isCode (.literal value :: pieces)) :
    Separated isCode pieces := by
  cases hpieces with
  | last => exact .nil
  | literal _ hrest => exact hrest

end LiteralLexing
