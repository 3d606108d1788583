import ComputeHive.Value
import ComputeHive.Models
import ComputeHive.Sdk
import ComputeHive.Json
import ComputeHive.Client
import ComputeHive.Transport
import ComputeHive.Api
import ComputeHive.Routes
import ComputeHive.Submit
import ComputeHive.Wait
import ComputeHive.Deadline
import ComputeHive.QuickRun
import ComputeHive.Retrying
