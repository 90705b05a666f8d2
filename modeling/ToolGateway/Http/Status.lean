namespace ToolGateway.Http.Status

def isSuccess (status : Nat) : Bool := 200 ≤ status && status < 300
def isClientError (status : Nat) : Bool := 400 ≤ status && status < 500
def isServerError (status : Nat) : Bool := 500 ≤ status && status < 600
def isError (status : Nat) : Bool := isClientError status || isServerError status

def bodiless (status : Nat) : Bool := status < 200 || status == 204 || status == 304

end ToolGateway.Http.Status
