import Mathlib.Algebra.Order.BigOperators.Group.List
import Mathlib.Tactic.Linarith
import Mathlib.Tactic.Ring
import VideoProcess.Data.Dict

namespace VideoProcess.ChannelOps.Reward

open Data

/-! The reward of a publication (`metrics.go`), over exact rationals. -/

/-- A call of `add`, without a value where the source does not make it. -/
structure Component where
  name : String
  weight : Rat
  value : Option Rat

variable {parts : List Component} {part : Component}

variable {metrics : Metrics} {context : PublicationRewardContext}

def valueOf (parts : List Component) (name : String) : Option Rat :=
  (parts.find? fun part => part.name = name).bind Component.value

/-- The metrics of an audience, each with the component that it counts in. -/
def counted : List (String × String) :=
  [("likes", "engagement_rate"), ("comments", "engagement_rate"),
    ("shares", "engagement_rate"), ("ctr", "ctr"),
    ("avg_view_duration_sec", "avg_view_duration_sec")]

variable {metric component : String} {raised : Rat}

end VideoProcess.ChannelOps.Reward
