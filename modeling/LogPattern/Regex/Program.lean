import LogPattern.Regex.Expr

/-!
# Search programs

A program is a list of steps that a search follows.  After a character, a condition
or a mark it goes on with the next step; a split tries its first successor before
its second, which is how alternatives and greedy repetitions get their order.
-/

namespace LogPattern.Regex

inductive Step where
  | char (set : CodeSet)
  | look (condition : Look)
  | mark (slot : Nat)
  | split (first second : Nat)
  | jump (target : Nat)
  | accept
deriving Inhabited, Repr

abbrev Program := Array Step

namespace Program

/-- Set the split at `at_` that leads to `body` or to `exit`, in the order of the repetition. -/
def setSplit (code : Program) (at_ body exit : Nat) (greedy : Bool) : Program :=
  code.setIfInBounds at_ (if greedy then .split body exit else .split exit body)

/-- Make room for a step that is set later. -/
def reserve (code : Program) : Program := code.push .accept

end Program

namespace Expr

mutual
/-- Append the steps of an expression; a match of it ends behind them. -/
def emit (code : Program) : Expr → Program
  | empty => code
  | chars set => code.push (.char set)
  | look condition => code.push (.look condition)
  | capture index content =>
      (content.emit (code.push (.mark (2 * index)))).push (.mark (2 * index + 1))
  | repeated least none greedy operand =>
      match least with
      | 0 =>
          if operand.mayTakeNothing then
            let entry := code.size
            let code := operand.emit (Program.reserve code)
            let again := code.size
            let code := Program.reserve code
            Program.setSplit (Program.setSplit code again (entry + 1) (again + 1) greedy)
              entry (entry + 1) (again + 1) greedy
          else
            let entry := code.size
            let code := (operand.emit (Program.reserve code)).push (.jump entry)
            Program.setSplit code entry (entry + 1) code.size greedy
      | more + 1 =>
          let code := Nat.repeat (fun code => operand.emit code) more code
          let entry := code.size
          let code := operand.emit code
          let again := code.size
          Program.setSplit (Program.reserve code) again entry (again + 1) greedy
  | repeated least (some most) greedy operand =>
      let code := Nat.repeat (fun code => operand.emit code) least code
      let (code, splits) := Nat.repeat (fun (code, splits) =>
        (operand.emit (Program.reserve code), code.size :: splits)) (most - least)
          (code, ([] : List Nat))
      splits.foldl (fun code' entry =>
        Program.setSplit code' entry (entry + 1) code.size greedy) code
  | choice branches => emitChoice code [] branches
  | sequence items => emitAll code items

def emitAll (code : Program) : List Expr → Program
  | [] => code
  | e :: rest => emitAll (e.emit code) rest

/--
Append the branches of a choice; `exits` are the places where finished branches
leave for the common end.
-/
def emitChoice (code : Program) (exits : List Nat) : List Expr → Program
  | [] => code
  | [last] =>
      let code := last.emit code
      exits.foldl (fun code' exit => code'.setIfInBounds exit (.jump code.size)) code
  | branch :: rest =>
      let entry := code.size
      let code := branch.emit (Program.reserve code)
      let exit := code.size
      let code := Program.reserve code
      emitChoice (Program.setSplit code entry (entry + 1) code.size true) (exit :: exits) rest
end

/-- The program that finds the expression and marks the ends of the whole match. -/
def program (e : Expr) : Program := ((capture 0 e).emit #[]).push .accept

end Expr

end LogPattern.Regex
