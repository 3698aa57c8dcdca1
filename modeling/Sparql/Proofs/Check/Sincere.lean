import Sparql.Proofs.Build.Operations
import Sparql.Proofs.Check.Ledger
import Sparql.Proofs.Check.Visits

/-!
Only a check reports shared blank nodes. In the reports about a query that is built, and about its
subqueries, such a report is therefore always the one that a check makes: `Reachable.sincere`.
-/

namespace Sparql

theorem Log.Sincere.add {log : Log} (sincere : log.Sincere) {report : Diagnostic}
    (also : report.IsSincere) : (log.add report).Sincere := by
  intro report' member
  rcases Log.mem_add.mp member with old | rfl
  · exact sincere report' old
  · exact also

namespace Query

def Sincere (query : Query) : Prop := query.Everywhere (·.log.Sincere)

variable {query query' : Query} {rights : Rights} {may : Query → Prop}

theorem ChangesTo.sincere_log (changes : query.ChangesTo rights may query')
    (building : rights.checking = false) (sincere : query.log.Sincere) : query'.log.Sincere := by
  induction changes with
  | trans _ _ first second => exact second (first sincere)
  | report query report fits =>
      refine sincere.add fun shared => ?_
      exact Bool.noConfusion (building.symm.trans (fits shared))
  | similar similar => rwa [similar.log]
  | _ => exact sincere

theorem Sincere.replace (sincere : query.Sincere) {id : PatternId} {sub sub' : Query}
    (found : query.arena.get? id = some (.subquery sub)) (inner : sub'.Sincere) :
    { query with arena := query.arena.set id (.subquery sub') }.Sincere := by
  refine .intro sincere.here fun part isPart => ?_
  rcases isPartOf_set found isPart with equal | old
  · cases equal
    exact inner
  · exact sincere.part old

end Query

namespace Build

theorem closedUnderCheck_sincere {checkSub : Build Bool}
    (keepsSub : Preserves Query.Sincere (fun _ => Query.Sincere) checkSub) :
    ClosedUnderCheck checkSub Query.Sincere fun _ => Query.Sincere where
  report diagnostic query sincere told := by
    have also : diagnostic.IsSincere := by
      rcases told with ⟨p, rfl⟩ | ⟨id, sub, found, member⟩
      · exact p.isSincere
      · exact (sincere.part ⟨id, found⟩).here diagnostic member
    have reported : Query.Sincere { query with log := query.log.add diagnostic } :=
      .intro (sincere.here.add also) fun _ => sincere.part
    rw [ends_report]
    split <;> exact reported
  own _ _ sincere := .intro sincere.here fun _ => sincere.part
  project _ _ sincere := .intro sincere.here fun _ => sincere.part
  done _ sincere := .intro sincere.here fun _ => sincere.part
  part _ _ sub sincere found := by
    refine (keepsSub sub (sincere.part ⟨_, found⟩)).imp ?_ ?_
    · exact fun _ _ inner => sincere.replace found inner
    · exact fun _ _ inner => sincere.replace found inner
  other _ _ sincere _ := sincere

theorem sincere_checkAt (level : Nat) :
    Preserves Query.Sincere (fun _ => Query.Sincere) (checkAt level) := by
  induction level with
  | zero => exact preserves_checkWith (closedUnderCheck_sincere (preserves_pure true))
  | succ level induction => exact preserves_checkWith (closedUnderCheck_sincere induction)

theorem sincere_check : Preserves Query.Sincere (fun _ => Query.Sincere) check :=
  preserves_get_bind fun query => sincere_checkAt _ query

end Build

namespace Query

variable {query : Query}

theorem Sincere.afterCheck (sincere : query.Sincere) : query.afterCheck.Sincere :=
  Build.sincere_check.after sincere

theorem Reachable.sincere (reachable : query.Reachable) : query.Sincere := by
  induction reachable with
  | empty options namespaces library labelOrder => exact .alone (List.forall_mem_nil _) rfl
  | step operation _ _ _ before parts =>
      by_cases check : operation = .check
      · subst check
        exact (Build.sincere_check.map Answer.verdict).after before
      · have changes := Operation.changesTo_after (Operation.within_building check) parts
        exact (changes _).everywhere (fun _ _ changes => changes.sincere_log rfl)
          (fun _ => id) before

end Query

end Sparql
