import RequestRouter.Exchange.Act

/-!
# Meter reports

The counters of a meter in the text format that metric collectors read.
-/

namespace RequestRouter.Counts

/-- Name, meaning and type of a metric, and its samples: labels with values. -/
def metric (name help type : String) (samples : List (String × String)) : String :=
  let lines := samples.map fun (labels, value) => s!"{name}{labels} {value}\n"
  s!"# HELP {name} {help}\n# TYPE {name} {type}\n" ++ String.join lines

def outcomeLabel (outcome : String) : String :=
  "\x7boutcome=\"" ++ outcome ++ "\"\x7d"

def report (c : Counts) (latency : String) : String :=
  metric "routeloom_requests_total" "Total number of dispatched requests" "counter"
      [("", toString c.requests)] ++
    metric "routeloom_requests_outcome_total" "Requests by outcome" "counter"
      [(outcomeLabel "handled", toString c.handled),
        (outcomeLabel "unhandled", toString c.unhandled),
        (outcomeLabel "error", toString c.failed)] ++
    metric "routeloom_request_latency_seconds" "Average request latency in seconds" "gauge"
      [("", latency)]

end RequestRouter.Counts
