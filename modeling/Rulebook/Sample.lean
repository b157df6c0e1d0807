import Rulebook.Number.Decimal
import Rulebook.Value

/-!
# Samples

The inputs that the designer offers for trying out a rule, and the graph it opens with.
-/

set_option autoImplicit false

namespace Rulebook.Sample

/-- An amount with two decimal places. -/
def amount (hundredths : Nat) : Value :=
  .double (Decimal.toDouble ⟨false, hundredths, -2⟩)

/-- A customer. -/
def customer : Value :=
  .object [("id", .int 1), ("name", .text "John Doe"), ("age", .int 25),
    ("email", .text "john.doe@example.com"), ("eligible", .bool false),
    ("accountType", .text "premium"), ("balance", amount 150050)]

/-- What all sample orders have in common. -/
def orderMembers : Members :=
  [("id", .int 101), ("amount", amount 29999), ("items", .int 3), ("category", .text "electronics")]

/-- An input with nothing but a customer. -/
def customerProfile : Value :=
  .object [("customer", customer)]

/-- An input about an order. -/
def orderProcessing : Value :=
  .object [("order", .object (orderMembers ++ [("priority", .text "normal")])),
    ("customer", .object [("id", .int 1), ("membershipLevel", .text "gold")])]

/-- An input about a customer, an order and where it came from. -/
def complexScenario : Value :=
  .object [("customer", customer), ("order", .object orderMembers),
    ("context", .object [("timestamp", .text "2024-01-01T00:00:00Z"), ("source", .text "web")])]

/-- The input of a run that gives none. -/
def defaultInput : Value := complexScenario

/-- The graph that the designer opens with. -/
def starterGraph : Value :=
  .object [
    ("nodes", .list [
      .object [("id", .text "sample-rule"), ("type", .text "rule"), ("data", .object [
        ("label", .text "Sample Rule"), ("name", .text "Customer Age Validation"),
        ("description", .text "Validates customer age for eligibility"), ("priority", .int 1)])],
      .object [("id", .text "sample-condition"), ("type", .text "condition"), ("data", .object [
        ("label", .text "Age >= 18"), ("field", .text "customer.age"), ("operator", .text ">="),
        ("value", .text "18")])],
      .object [("id", .text "sample-action"), ("type", .text "action"), ("data", .object [
        ("label", .text "Set Eligible"), ("type", .text "setProperty"),
        ("target", .text "customer.eligible"), ("value", .text "true")])]]),
    ("edges", .list [
      .object [("id", .text "rule-condition"), ("source", .text "sample-rule"),
        ("target", .text "sample-condition")],
      .object [("id", .text "rule-action"), ("source", .text "sample-rule"),
        ("target", .text "sample-action")]])]

/-- A sample input under the name it is offered by. -/
def named (name : String) (input : Value) : Value :=
  .object [("name", .text name), ("data", input)]

/-- Everything that is offered. -/
def offered : Value :=
  .object [
    ("templates", .list [named "Customer Profile" customerProfile,
      named "Order Processing" orderProcessing, named "Complex Scenario" complexScenario]),
    ("starter_graph", starterGraph)]

end Rulebook.Sample
