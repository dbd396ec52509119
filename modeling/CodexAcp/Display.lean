import CodexAcp.Lib.Text
import CodexAcp.Protocol.Codex

/-!
# Showing a goal

The texts a goal is shown as: a summary of it, and a shorter message when it was
set. Token counts are printed by the environment, which divides them as
floating-point numbers.
-/

namespace CodexAcp

open CodexAcp.Lib CodexAcp.Protocol

/-- A span of time in its largest units; days are followed by hours and minutes
even when there are none. -/
def formatGoalElapsedSeconds (seconds : Int) : String :=
  let seconds := seconds.toNat
  if seconds < 60 then toString seconds ++ "s"
  else
    let minutes := seconds / 60
    if minutes < 60 then toString minutes ++ "m"
    else
      let hours := minutes / 60
      let remainingMinutes := minutes % 60
      if hours ≥ 24 then
        let days := hours / 24
        let remainingHours := hours % 24
        toString days ++ "d " ++ toString remainingHours ++ "h " ++
          toString remainingMinutes ++ "m"
      else if remainingMinutes = 0 then toString hours ++ "h"
      else toString hours ++ "h " ++ toString remainingMinutes ++ "m"

def formatThreadGoalStatusLabel : ThreadGoalStatus → String
  | .active => "active"
  | .paused => "paused"
  | .blocked => "blocked"
  | .usageLimited => "limited by usage"
  | .budgetLimited => "limited by budget"
  | .complete => "complete"

def formatThreadGoalUsageSummary (codex : Codex) (goal : ThreadGoal) : String :=
  " ".intercalate
    (["Objective: " ++ Text.trim goal.objective] ++
      (if goal.timeUsedSeconds > 0 then
        ["Time: " ++ formatGoalElapsedSeconds goal.timeUsedSeconds ++ "."] else []) ++
      (goal.tokenBudget.map fun tokenBudget =>
        "Tokens: " ++ codex.formatTokenCountCompact goal.tokensUsed ++ "/" ++
          codex.formatTokenCountCompact tokenBudget ++ ".").toList)

/-- The `/goal` commands a goal of this status offers. -/
def goalCommands : ThreadGoalStatus → String
  | .active => "Commands: /goal pause, /goal clear"
  | .paused => "Commands: /goal resume, /goal clear"
  | .blocked | .usageLimited | .budgetLimited | .complete => "Commands: /goal clear"

def formatThreadGoalSummary (codex : Codex) (goal : ThreadGoal) : String :=
  "\n".intercalate
    (["Goal",
      "Status: " ++ formatThreadGoalStatusLabel goal.status,
      "Objective: " ++ Text.trim goal.objective,
      "Time used: " ++ formatGoalElapsedSeconds goal.timeUsedSeconds,
      "Tokens used: " ++ codex.formatTokenCountCompact goal.tokensUsed] ++
      (goal.tokenBudget.map fun tokenBudget =>
        "Token budget: " ++ codex.formatTokenCountCompact tokenBudget).toList ++
      ["", goalCommands goal.status])

end CodexAcp
