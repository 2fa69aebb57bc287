namespace TypedBus.Release

def name : String := "umundo"

def version : String := "0.1.1"

end TypedBus.Release
