/-!
Suits, ranks and the three numbers a rank carries: its points in a hand, its
strength in effects and shuffles, and its tag in the running count.
-/
namespace BloodStakes

/-- Cards are referred to by number; `Face` says which numbers are printed. -/
abbrev CardId := Nat

inductive Suit where
  | hearts
  | diamonds
  | clubs
  | spades
  deriving DecidableEq, Repr

namespace Suit

def all : List Suit := [hearts, diamonds, clubs, spades]

def name : Suit → String
  | hearts => "Hearts"
  | diamonds => "Diamonds"
  | clubs => "Clubs"
  | spades => "Spades"

end Suit

inductive Rank where
  | two
  | three
  | four
  | five
  | six
  | seven
  | eight
  | nine
  | ten
  | jack
  | queen
  | king
  | ace
  deriving DecidableEq, Repr

namespace Rank

def all : List Rank :=
  [two, three, four, five, six, seven, eight, nine, ten, jack, queen, king, ace]

def name : Rank → String
  | two => "2"
  | three => "3"
  | four => "4"
  | five => "5"
  | six => "6"
  | seven => "7"
  | eight => "8"
  | nine => "9"
  | ten => "10"
  | jack => "Jack"
  | queen => "Queen"
  | king => "King"
  | ace => "Ace"

/-- How strongly the card acts in effects and shuffles; the ace stands apart. -/
def strength : Rank → Nat
  | two => 2
  | three => 3
  | four => 4
  | five => 5
  | six => 6
  | seven => 7
  | eight => 8
  | nine => 9
  | ten => 10
  | jack => 11
  | queen => 12
  | king => 13
  | ace => 15

/-- Points in a hand, with every ace counted low. -/
def points : Rank → Nat
  | ace => 1
  | jack | queen | king => 10
  | r => r.strength

def isAce (r : Rank) : Bool := r = ace

/-- Hi-Lo tag: low cards count up, tens and aces count down. -/
def countTag (r : Rank) : Int :=
  if 2 ≤ r.points ∧ r.points ≤ 6 then 1
  else if 7 ≤ r.points ∧ r.points ≤ 9 then 0
  else -1

end Rank

end BloodStakes
