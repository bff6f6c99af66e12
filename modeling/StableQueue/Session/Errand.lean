import StableQueue.Outline
import StableQueue.Session.Task

/-!
# Queries and Errands

A `Query` reads something off an object. It makes no call at the queue and never waits. An `Errand`
is anything that can be done through an object, by the caller of a session or by a thread: a task or
a query.
-/

namespace StableQueue

/-- What an object looks like if it holds this queue. -/
def Target.outline (target : Target) (queue : Queue) : Text.Outline :=
  match target with
  | .queue _ => queue.outline
  | .producer _ => Producer.outline queue
  | .consumer _ => Consumer.outline queue

/-- Something to be read off an object. -/
inductive Query where
  /-- The largest payload that a message can carry. -/
  | maxMessageSize
  /-- What the object looks like. -/
  | display (pretty : Bool)
  /-- The particulars of the queue. -/
  | particulars
  deriving DecidableEq, Repr

/-- The answer to a query about an object that holds this queue. -/
def Query.answer (target : Target) (queue : Queue) : Query → Answer
  | maxMessageSize => .number queue.messageSize
  | display pretty => .text ((target.outline queue).text pretty)
  | particulars => .particulars queue.particulars

/-- Something that can be done through an object. -/
inductive Errand where
  /-- Carry out a task. -/
  | task (task : Task)
  /-- Answer a query. -/
  | query (query : Query)
  deriving DecidableEq

end StableQueue
