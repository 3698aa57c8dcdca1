import Sparql.Build.Terms

/-!
Setting the clauses of a query, and defining its functions.
-/

namespace Sparql.Build

/-! ## Form -/

def setForm (form : QueryForm) : Build Unit :=
  modifyClauses fun clauses => { clauses with form }

def setDataUpdate (dataUpdate : DataUpdate) : Build Unit :=
  modifyClauses fun clauses =>
    { clauses with
      dataUpdate
      form := if dataUpdate = .none then clauses.form else .update }

/-! ## Body and templates -/

def setBody (id : PatternId) : Build Unit := do
  known id
  modifyClauses fun clauses => { clauses with body := some id }

def setConstruct (id : PatternId) : Build Unit := do
  known id
  modifyClauses fun clauses => { clauses with construct := some id }

def setInsert (id : PatternId) : Build Unit := do
  known id
  modifyClauses fun clauses => { clauses with insert := some id }

def setDelete (id : PatternId) : Build Unit := do
  known id
  modifyClauses fun clauses => { clauses with delete := some id }

/-! ## Projection -/

/-- Project a variable. A plain variable is projected once; variables bound to an expression are
all kept, for a check to find those bound twice. -/
def select (target : Variable) (value : Option Expr) : Build Unit :=
  modifyClauses fun clauses =>
    if value.isNone && target.occursIn clauses.selected then clauses
    else { clauses with select := clauses.select ++ [{ target, value }] }

def setSelectAll (all : Bool) : Build Unit :=
  modifyClauses fun clauses => { clauses with selectAll := all }

def setDistinct (distinct : Bool) : Build Unit :=
  modifyClauses fun clauses => { clauses with distinct }

def setReduced (reduced : Bool) : Build Unit :=
  modifyClauses fun clauses => { clauses with reduced }

def describe (term : Expr) : Build Unit :=
  modifyClauses fun clauses =>
    if clauses.describe.any (·.same term) then clauses
    else { clauses with describe := clauses.describe ++ [term] }

/-! ## Solution modifiers -/

def groupBy (key : Expr) : Build Unit :=
  modifyClauses fun clauses => { clauses with groupBy := clauses.groupBy ++ [key] }

def having (condition : Expr) : Build Unit :=
  modifyClauses fun clauses => { clauses with having := clauses.having ++ [condition] }

def orderBy (key : Expr) (descending : Bool) : Build Unit :=
  modifyClauses fun clauses =>
    { clauses with orderBy := clauses.orderBy ++ [{ key, descending }] }

def setLimit (limit : Nat) : Build Unit :=
  modifyClauses fun clauses => { clauses with limit }

def setOffset (offset : Nat) : Build Unit :=
  modifyClauses fun clauses => { clauses with offset }

def setValues (table : InlineData) : Build Unit :=
  modifyClauses fun clauses => { clauses with values := some table }

/-! ## Functions -/

/-- Define a function. Calls of it may have been made before. -/
def define (name : String) (params : List Variable) (body : Expr) : Build Unit := do
  let (written, longName) ← calledName name
  let params := params.map fun param => { param with scope := .parameter }
  modify fun query =>
    { query with
      functions := query.functions.define { name := longName.getD written, params, body } }

end Sparql.Build
