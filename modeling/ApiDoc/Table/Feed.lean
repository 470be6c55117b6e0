/-
This file defines feeds: what a stream delivers one by one, and how it ends. A consumer may stop
before the end and then never learns of it.
-/
import ApiDoc.Failure

namespace ApiDoc

/-- The items of a stream in order, and whether it ends or fails after them. -/
structure Feed (α : Type) where
  items : List α
  ending : Except Failure Unit
  deriving Repr

namespace Feed

variable {α β : Type}

/-- A stream that delivers some items and ends. -/
def ofList (items : List α) : Feed α := { items, ending := .ok () }

/-- A stream that fails at once. -/
def failed (failure : Failure) : Feed α := { items := [], ending := .error failure }

/-- The stream of what becomes of each item. -/
def map (change : α → β) (feed : Feed α) : Feed β :=
  { items := feed.items.map change, ending := feed.ending }

/-- The stream with one more item before it. -/
def cons (item : α) (feed : Feed α) : Feed α :=
  { items := item :: feed.items, ending := feed.ending }

/-- What a consumer sees who stops after an item as soon as there is a number of them. -/
def upTo (feed : Feed α) (limit? : Option Nat) : Feed α :=
  match limit? with
  | none => feed
  | some limit =>
    if max limit 1 ≤ feed.items.length then ofList (feed.items.take (max limit 1)) else feed

/-- All items, if the stream ends without a failure. -/
def toExcept (feed : Feed α) : Except Failure (List α) :=
  match feed.ending with
  | .ok () => .ok feed.items
  | .error failure => .error failure

end Feed

end ApiDoc
