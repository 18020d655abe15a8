namespace HttpGateway.Text.CharName

def alphabetNames : List (Nat × List String) := [
  (32, [
    "aSPACEaEXCLAMATION MARKaQUOTATION:1aNUMBER SIGNaDOLLAR:1aPERCENT:1aAMPERSANDaAPOSTROPHE",
    "aLEFT PARENTHESISaRIGHT:1aASTERISKaPLUS SIGNaCOMMAaHYPHEN-MINUSaFULL STOPaSOLIDUS",
    "aDIGIT ZERObONEbTWObTHREEbFOURbFIVEbSIXbSEVENbEIGHTbNINEaCOLONaSEMICOLONaLESS-THAN SIGN",
    "aEQUALS:1aGREATER-THAN:1aQUESTION MARKaCOMMERCIAL ATaLATIN CAPITAL LETTER AdBdCdDdEdFdGdHdI",
    "dJdKdLdMdNdOdPdQdRdSdTdUdVdWdXdYdZaLEFT SQUARE BRACKETaREVERSE SOLIDUSaRIGHT SQUARE BRACKET",
    "aCIRCUMFLEX ACCENTaLOW LINEaGRAVE ACCENTaLATIN SMALL LETTER AdBdCdDdEdFdGdHdIdJdKdLdMdNdOdP",
    "dQdRdSdTdUdVdWdXdYdZaLEFT CURLY BRACKETaVERTICAL LINEaRIGHT CURLY BRACKETaTILDE............",
    ".....................aNO-BREAK SPACEaINVERTED EXCLAMATION MARKaCENT SIGNaPOUND:1aCURRENCY:1",
    "aYEN:1aBROKEN BARaSECTION SIGNaDIAERESISaCOPYRIGHT SIGNaFEMININE ORDINAL INDICATOR",
    "aLEFT-POINTING DOUBLE ANGLE QUOTATION MARKaNOT SIGNaSOFT HYPHENaREGISTERED SIGNaMACRON",
    "aDEGREE SIGNaPLUS-MINUS:1aSUPERSCRIPT TWObTHREEaACUTE ACCENTaMICRO SIGNaPILCROW:1",
    "aMIDDLE DOTaCEDILLAaSUPERSCRIPT ONEaMASCULINE ORDINAL INDICATOR",
    "aRIGHT-POINTING DOUBLE ANGLE QUOTATION MARKaVULGAR FRACTION ONE QUARTERdHALFcTHREE QUARTERS",
    "aINVERTED QUESTION MARKaLATIN CAPITAL LETTER A WITH GRAVEfACUTEfCIRCUMFLEXfTILDEfDIAERESIS",
    "fRING ABOVEdAEdC WITH CEDILLAdE WITH GRAVEfACUTEfCIRCUMFLEXfDIAERESISdI WITH GRAVEfACUTE",
    "fCIRCUMFLEXfDIAERESISdETHdN WITH TILDEdO WITH GRAVEfACUTEfCIRCUMFLEXfTILDEfDIAERESIS",
    "aMULTIPLICATION SIGNaLATIN CAPITAL LETTER O WITH STROKEdU WITH GRAVEfACUTEfCIRCUMFLEX",
    "fDIAERESISdY WITH ACUTEdTHORNbSMALL LETTER SHARP SdA WITH GRAVEfACUTEfCIRCUMFLEXfTILDE",
    "fDIAERESISfRING ABOVEdAEdC WITH CEDILLAdE WITH GRAVEfACUTEfCIRCUMFLEXfDIAERESIS",
    "dI WITH GRAVEfACUTEfCIRCUMFLEXfDIAERESISdETHdN WITH TILDEdO WITH GRAVEfACUTEfCIRCUMFLEX",
    "fTILDEfDIAERESISaDIVISION SIGNaLATIN SMALL LETTER O WITH STROKEdU WITH GRAVEfACUTE",
    "fCIRCUMFLEXfDIAERESISdY WITH ACUTEdTHORNdY WITH DIAERESISbCAPITAL LETTER A WITH MACRON",
    "bSMALL:4bCAPITAL LETTER A WITH BREVEbSMALL:4bCAPITAL LETTER A WITH OGONEKbSMALL:4",
    "bCAPITAL LETTER C WITH ACUTEbSMALL:4bCAPITAL LETTER C WITH CIRCUMFLEXbSMALL:4",
    "bCAPITAL LETTER C WITH DOT ABOVEbSMALL:5bCAPITAL LETTER C WITH CARONbSMALL:4",
    "bCAPITAL LETTER D:2bSMALL:4bCAPITAL LETTER D WITH STROKEbSMALL:4",
    "bCAPITAL LETTER E WITH MACRONbSMALL:4bCAPITAL LETTER E WITH BREVEbSMALL:4",
    "bCAPITAL LETTER E WITH DOT ABOVEbSMALL:5bCAPITAL LETTER E WITH OGONEKbSMALL:4",
    "bCAPITAL LETTER E WITH CARONbSMALL:4bCAPITAL LETTER G WITH CIRCUMFLEXbSMALL:4",
    "bCAPITAL LETTER G WITH BREVEbSMALL:4bCAPITAL LETTER G WITH DOT ABOVEbSMALL:5",
    "bCAPITAL LETTER G WITH CEDILLAbSMALL:4bCAPITAL LETTER H WITH CIRCUMFLEXbSMALL:4",
    "bCAPITAL LETTER H WITH STROKEbSMALL:4bCAPITAL LETTER I WITH TILDEbSMALL:4",
    "bCAPITAL LETTER I WITH MACRONbSMALL:4bCAPITAL LETTER I WITH BREVEbSMALL:4",
    "bCAPITAL LETTER I WITH OGONEKbSMALL:4bCAPITAL LETTER I WITH DOT ABOVE",
    "bSMALL LETTER DOTLESS IbCAPITAL LIGATURE IJbSMALL:2bCAPITAL LETTER J WITH CIRCUMFLEX",
    "bSMALL:4bCAPITAL LETTER K WITH CEDILLAbSMALL:4dKRAbCAPITAL LETTER L WITH ACUTEbSMALL:4",
    "bCAPITAL LETTER L WITH CEDILLAbSMALL:4bCAPITAL LETTER L WITH CARONbSMALL:4",
    "bCAPITAL LETTER L WITH MIDDLE DOTbSMALL:5bCAPITAL LETTER L WITH STROKEbSMALL:4",
    "bCAPITAL LETTER N WITH ACUTEbSMALL:4bCAPITAL LETTER N WITH CEDILLAbSMALL:4",
    "bCAPITAL LETTER N WITH CARONbSMALL:4ePRECEDED BY APOSTROPHEbCAPITAL LETTER ENGbSMALL:2",
    "bCAPITAL LETTER O WITH MACRONbSMALL:4bCAPITAL LETTER O WITH BREVEbSMALL:4",
    "bCAPITAL LETTER O WITH DOUBLE ACUTEbSMALL:5bCAPITAL LIGATURE OEbSMALL:2",
    "bCAPITAL LETTER R WITH ACUTEbSMALL:4bCAPITAL LETTER R WITH CEDILLAbSMALL:4",
    "bCAPITAL LETTER R WITH CARONbSMALL:4bCAPITAL LETTER S WITH ACUTEbSMALL:4",
    "bCAPITAL LETTER S WITH CIRCUMFLEXbSMALL:4bCAPITAL LETTER S WITH CEDILLAbSMALL:4",
    "bCAPITAL LETTER S WITH CARONbSMALL:4bCAPITAL LETTER T WITH CEDILLAbSMALL:4",
    "bCAPITAL LETTER T WITH CARONbSMALL:4bCAPITAL LETTER T WITH STROKEbSMALL:4",
    "bCAPITAL LETTER U WITH TILDEbSMALL:4bCAPITAL LETTER U WITH MACRONbSMALL:4",
    "bCAPITAL LETTER U WITH BREVEbSMALL:4bCAPITAL LETTER U WITH RING ABOVEbSMALL:5",
    "bCAPITAL LETTER U WITH DOUBLE ACUTEbSMALL:5bCAPITAL LETTER U WITH OGONEKbSMALL:4",
    "bCAPITAL LETTER W WITH CIRCUMFLEXbSMALL:4bCAPITAL LETTER Y:2bSMALL:4",
    "bCAPITAL LETTER Y WITH DIAERESISdZ WITH ACUTEbSMALL:4bCAPITAL LETTER Z WITH DOT ABOVE",
    "bSMALL:5bCAPITAL LETTER Z WITH CARONbSMALL:4dLONG SdB WITH STROKE",
    "bCAPITAL LETTER B WITH HOOKfTOPBARbSMALL:4bCAPITAL LETTER TONE SIXbSMALL:3",
    "bCAPITAL LETTER OPEN OdC WITH HOOKbSMALL:4bCAPITAL LETTER AFRICAN DdD WITH HOOKfTOPBAR",
    "bSMALL:4dTURNED DELTAbCAPITAL LETTER REVERSED EdSCHWAdOPEN EdF WITH HOOKbSMALL:4",
    "bCAPITAL LETTER G:2dGAMMAbSMALL LETTER HVbCAPITAL LETTER IOTAdI WITH STROKEdK WITH HOOK",
    "bSMALL:4dL WITH BARdLAMBDA WITH STROKEbCAPITAL LETTER TURNED MdN WITH LEFT HOOK",
    "bSMALL LETTER N WITH LONG RIGHT LEGbCAPITAL LETTER O WITH MIDDLE TILDEfHORNbSMALL:4",
    "bCAPITAL LETTER OIbSMALL:2bCAPITAL LETTER P WITH HOOKbSMALL:4bLETTER YR",
    "bCAPITAL LETTER TONE TWObSMALL:3bCAPITAL LETTER ESHbLETTER REVERSED ESH LOOP",
    "bSMALL LETTER T WITH PALATAL HOOKbCAPITAL LETTER T WITH:1bSMALL:4",
    "bCAPITAL LETTER T WITH RETROFLEX:1dU WITH HORNbSMALL:4bCAPITAL LETTER UPSILONdV WITH HOOK",
    "dY:2bSMALL:4bCAPITAL LETTER Z WITH STROKEbSMALL:4bCAPITAL LETTER EZHeREVERSEDbSMALL:3",
    "eWITH TAILbLETTER TWO WITH STROKEbCAPITAL LETTER TONE FIVEbSMALL:3",
    "bLETTER INVERTED GLOTTAL STOP WITH STROKEcWYNNcDENTAL CLICKcLATERAL:1cALVEOLAR:1",
    "cRETROFLEX:1bCAPITAL LETTER DZ WITH CARONdD WITH SMALL LETTER Z:2bSMALL LETTER DZ:2",
    "bCAPITAL LETTER LJdL WITH SMALL LETTER JbSMALL LETTER LJbCAPITAL LETTER NJ",
    "dN WITH SMALL LETTER JbSMALL LETTER NJbCAPITAL LETTER A WITH CARONbSMALL:4",
    "bCAPITAL LETTER I:2bSMALL:4bCAPITAL LETTER O:2bSMALL:4bCAPITAL LETTER U:2bSMALL:4",
    "bCAPITAL LETTER U WITH DIAERESIS AND MACRONbSMALL:6",
    "bCAPITAL LETTER U WITH DIAERESIS AND ACUTEbSMALL:6",
    "bCAPITAL LETTER U WITH DIAERESIS AND CARONbSMALL:6",
    "bCAPITAL LETTER U WITH DIAERESIS AND GRAVEbSMALL:6dTURNED E",
    "bCAPITAL LETTER A WITH DIAERESIS AND MACRONbSMALL:6bCAPITAL LETTER A WITH DOT ABOVE:2",
    "bSMALL:7bCAPITAL LETTER AE WITH:1bSMALL:4bCAPITAL LETTER G WITH STROKEbSMALL:4",
    "bCAPITAL LETTER G WITH CARONbSMALL:4bCAPITAL LETTER K:2bSMALL:4",
    "bCAPITAL LETTER O WITH OGONEKbSMALL:4bCAPITAL LETTER O WITH OGONEK AND MACRONbSMALL:6",
    "bCAPITAL LETTER EZH WITH CARONbSMALL:4dJ:2bCAPITAL LETTER DZdD WITH SMALL LETTER Z",
    "bSMALL LETTER DZbCAPITAL LETTER G WITH ACUTEbSMALL:4bCAPITAL LETTER HWAIRdWYNNdN WITH GRAVE",
    "bSMALL:4bCAPITAL LETTER A WITH RING ABOVE AND ACUTEbSMALL:7bCAPITAL LETTER AE WITH:1",
    "bSMALL:4bCAPITAL LETTER O WITH STROKE AND:1bSMALL:6bCAPITAL LETTER A WITH DOUBLE GRAVE",
    "bSMALL:5bCAPITAL LETTER A WITH INVERTED BREVEbSMALL:5bCAPITAL LETTER E WITH DOUBLE GRAVE",
    "bSMALL:5bCAPITAL LETTER E WITH INVERTED BREVEbSMALL:5bCAPITAL LETTER I WITH DOUBLE GRAVE",
    "bSMALL:5bCAPITAL LETTER I WITH INVERTED BREVEbSMALL:5bCAPITAL LETTER O WITH DOUBLE GRAVE",
    "bSMALL:5bCAPITAL LETTER O WITH INVERTED BREVEbSMALL:5bCAPITAL LETTER R WITH DOUBLE GRAVE",
    "bSMALL:5bCAPITAL LETTER R WITH INVERTED BREVEbSMALL:5bCAPITAL LETTER U WITH DOUBLE GRAVE",
    "bSMALL:5bCAPITAL LETTER U WITH INVERTED BREVEbSMALL:5bCAPITAL LETTER S WITH COMMA BELOW",
    "bSMALL:5bCAPITAL LETTER T:3bSMALL:5bCAPITAL LETTER YOGHbSMALL:2bCAPITAL LETTER H WITH CARON",
    "bSMALL:4bCAPITAL LETTER N WITH LONG RIGHT LEGbSMALL LETTER D WITH CURLbCAPITAL LETTER OU",
    "bSMALL:2bCAPITAL LETTER Z WITH HOOKbSMALL:4bCAPITAL LETTER A WITH DOT ABOVEbSMALL:5",
    "bCAPITAL LETTER E WITH CEDILLAbSMALL:4bCAPITAL LETTER O WITH DIAERESIS AND MACRONbSMALL:6",
    "bCAPITAL LETTER O WITH TILDE:2bSMALL:6bCAPITAL LETTER O WITH DOT ABOVEbSMALL:5",
    "bCAPITAL LETTER O WITH DOT ABOVE AND MACRONbSMALL:7bCAPITAL LETTER Y WITH:1bSMALL:4",
    "dL WITH CURLdN:2dT:2dDOTLESS JdDB DIGRAPHdQP:1bCAPITAL LETTER A WITH STROKEdC:2bSMALL:4",
    "bCAPITAL LETTER L WITH BARdT WITH DIAGONAL STROKEbSMALL LETTER S WITH SWASH TAILdZ:3",
    "bCAPITAL LETTER GLOTTAL STOPbSMALL:3bCAPITAL LETTER B WITH STROKEdU BARdTURNED V",
    "dE WITH STROKEbSMALL:4bCAPITAL LETTER J:2bSMALL:4bCAPITAL LETTER SMALL Q WITH HOOK TAIL",
    "bSMALL LETTER:4bCAPITAL LETTER R WITH STROKEbSMALL:4bCAPITAL LETTER Y:2bSMALL:4dTURNED A",
    "dALPHAdTURNED:1dB WITH HOOKdOPEN OdC WITH CURLdD WITH TAILfHOOKdREVERSED EdSCHWAeWITH HOOK",
    "dOPEN EdREVERSED:2gWITH HOOKdCLOSED REVERSED OPEN EdDOTLESS J WITH STROKEdG WITH HOOK",
    "dSCRIPT GbLETTER SMALL CAPITAL GbSMALL LETTER GAMMAdRAMS HORNdTURNED HdH WITH HOOKdHENG:2",
    "dI WITH STROKEdIOTAbLETTER SMALL CAPITAL IbSMALL LETTER L WITH MIDDLE TILDEfBELT",
    "fRETROFLEX HOOKdLEZHdTURNED MfWITH LONG LEGdM WITH HOOKdN WITH LEFT:1fRETROFLEX:1",
    "bLETTER SMALL CAPITAL NbSMALL LETTER BARRED ObLETTER SMALL CAPITAL OE",
    "bSMALL LETTER CLOSED OMEGAdPHIdTURNED RfWITH LONG LEGgHOOKdR WITH LONG LEGfTAILfFISHHOOK",
    "dREVERSED:3bLETTER SMALL CAPITAL ReINVERTED RbSMALL LETTER S WITH HOOKdESH",
    "dDOTLESS J WITH STROKE AND HOOKdSQUAT REVERSED ESHdESH WITH CURLdTURNED T",
    "dT WITH RETROFLEX HOOKdU BARdUPSILONdV WITH HOOKdTURNED VeWeYbLETTER SMALL CAPITAL Y",
    "bSMALL LETTER Z WITH RETROFLEX HOOKfCURLdEZHeWITH CURLbLETTER GLOTTAL STOP",
    "cPHARYNGEAL VOICED FRICATIVEcINVERTED GLOTTAL STOPcSTRETCHED CcBILABIAL CLICK",
    "cSMALL CAPITAL BbSMALL LETTER CLOSED OPEN EbLETTER SMALL CAPITAL G WITH HOOKeH",
    "bSMALL LETTER J WITH CROSSED-TAILdTURNED KbLETTER SMALL CAPITAL LbSMALL LETTER Q WITH HOOK",
    "bLETTER GLOTTAL STOP WITH STROKEcREVERSED:4bSMALL LETTER DZ DIGRAPHdDEZH:1",
    "dDZ DIGRAPH WITH CURLdTS DIGRAPHdTESH:1dTC DIGRAPH WITH CURLdFENG DIGRAPHdLS:1dLZ:1",
    "bLETTER BILABIAL PERCUSSIVEcBIDENTAL:1bSMALL LETTER TURNED H WITH FISHHOOKhAND TAIL",
    "aMODIFIER LETTER SMALL HeWITH HOOKdJdRdTURNED RfWITH HOOKdCAPITAL INVERTED RdWdYcPRIME",
    "cDOUBLE:1cTURNED COMMAcAPOSTROPHEcREVERSED COMMAcRIGHT HALF RINGcLEFT:2cGLOTTAL STOP",
    "cREVERSED:2cLEFT ARROWHEADcRIGHT:1cUP:1cDOWN:1cCIRCUMFLEX ACCENTaCARON",
    "aMODIFIER LETTER VERTICAL LINEcMACRONcACUTE ACCENTcGRAVE:1cLOW VERTICAL LINEdMACRON",
    "dGRAVE ACCENTdACUTE:1cTRIANGULAR COLONcHALF:2cCENTRED RIGHT HALF RINGdLEFT:2cUP TACKcDOWN:1",
    "cPLUS SIGNcMINUS:1aBREVEaDOT ABOVEaRING:1aOGONEKaSMALL TILDEaDOUBLE ACUTE ACCENT",
    "aMODIFIER LETTER RHOTIC HOOKcCROSS ACCENTcSMALL GAMMAdLdSdXdREVERSED GLOTTAL STOP",
    "cEXTRA-HIGH TONE BARcHIGH:2cMID:2cLOW:2cEXTRA-LOW:2cYIN DEPARTING TONE MARKcYANG:3cVOICING",
    "cUNASPIRATEDcDOUBLE APOSTROPHEcLOW DOWN ARROWHEADdUP:1dLEFT:1dRIGHT:1dRING",
    "cMIDDLE GRAVE ACCENTdDOUBLE:2eACUTE:1cLOW TILDEcRAISED COLONcBEGIN HIGH TONEcEND:2",
    "cBEGIN LOW:1cEND:2cSHELFcOPEN:1cLOW LEFT ARROWaCOMBINING GRAVE ACCENTbACUTE:1bCIRCUMFLEX:1",
    "bTILDEbMACRONbOVERLINEbBREVEbDOT ABOVEbDIAERESISbHOOK ABOVEbRING:1bDOUBLE ACUTE ACCENT",
    "bCARONbVERTICAL LINE ABOVEbDOUBLE:3cGRAVE ACCENTbCANDRABINDUbINVERTED BREVE",
    "bTURNED COMMA ABOVEb:2bREVERSED:2bCOMMA ABOVE RIGHTbGRAVE ACCENT BELOWbACUTE:2bLEFT TACK:1",
    "bRIGHT:2bLEFT ANGLE ABOVEbHORNbLEFT HALF RING BELOWbUP TACK:1bDOWN:2bPLUS SIGN:1bMINUS:2",
    "bPALATALIZED HOOK:1bRETROFLEX:2bDOT:1bDIAERESIS:1bRING:1bCOMMA:1bCEDILLAbOGONEK",
    "bVERTICAL LINE BELOWbBRIDGE:1bINVERTED DOUBLE ARCH:1bCARON:1bCIRCUMFLEX ACCENT:1bBREVE:1",
    "bINVERTED:2bTILDE:1bMACRON:1bLOW LINEbDOUBLE:2bTILDE OVERLAYbSHORT STROKE:1bLONG:2",
    "bSHORT SOLIDUS:1bLONG:2bRIGHT HALF RING BELOWbINVERTED BRIDGE:1bSQUARE:1bSEAGULL:1bX ABOVE",
    "bVERTICAL TILDEbDOUBLE OVERLINEbGRAVE TONE MARKbACUTE:2bGREEK PERISPOMENIcKORONIS",
    "cDIALYTIKA TONOScYPOGEGRAMMENIbBRIDGE ABOVEbEQUALS SIGN BELOWbDOUBLE VERTICAL LINE:1",
    "bLEFT ANGLE:1bNOT TILDE ABOVEbHOMOTHETIC:1bALMOST EQUAL TO:1bLEFT RIGHT ARROW BELOW",
    "bUPWARDS:2bGRAPHEME JOINERbRIGHT ARROWHEAD ABOVEbLEFT HALF RING:1bFERMATAbX BELOW",
    "bLEFT ARROWHEAD:1bRIGHT:2dAND UP ARROWHEAD:1cHALF RING ABOVEbDOT ABOVE RIGHTbASTERISK BELOW",
    "bDOUBLE RING:1bZIGZAG ABOVEbDOUBLE BREVE BELOWdcMACRONdBELOWcTILDEcINVERTED BREVE",
    "cRIGHTWARDS ARROW BELOWbLATIN SMALL LETTER AeEeIeOeUeCeDeHeMeReTeVeX",
    "aGREEK CAPITAL LETTER HETAbSMALL:2bCAPITAL LETTER ARCHAIC SAMPIbSMALL:3bNUMERAL SIGN",
    "bLOWER:2bCAPITAL LETTER PAMPHYLIAN DIGAMMAbSMALL:3..bYPOGEGRAMMENI",
    "bSMALL REVERSED LUNATE SIGMA SYMBOLcDOTTED:3cREVERSED:4bQUESTION MARKbCAPITAL LETTER YOT...",
    ".bTONOSbDIALYTIKA:1bCAPITAL LETTER ALPHA WITH:1bANO TELEIA",
    "bCAPITAL LETTER EPSILON WITH TONOSdETA:2dIOTA:2.dOMICRON:2.dUPSILON:2dOMEGA:2",
    "bSMALL LETTER IOTA WITH DIALYTIKA AND:1bCAPITAL LETTER ALPHAdBETAdGAMMAdDELTAdEPSILONdZETA",
    "dETAdTHETAdIOTAdKAPPAdLAMDAdMUdNUdXIdOMICRONdPIdRHO.dSIGMAdTAUdUPSILONdPHIdCHIdPSIdOMEGA",
    "dIOTA WITH DIALYTIKAdUPSILON:2bSMALL LETTER ALPHA WITH TONOSdEPSILON:2dETA:2dIOTA:2",
    "dUPSILON WITH DIALYTIKA AND:1dALPHAdBETAdGAMMAdDELTAdEPSILONdZETAdETAdTHETAdIOTAdKAPPA",
    "dLAMDAdMUdNUdXIdOMICRONdPIdRHOdFINAL SIGMAd:1dTAUdUPSILONdPHIdCHIdPSIdOMEGA",
    "dIOTA WITH DIALYTIKAdUPSILON:2dOMICRON WITH TONOSdUPSILON:2dOMEGA:2bCAPITAL KAI SYMBOL",
    "bBETA:1bTHETA:1bUPSILON WITH HOOK:1dACUTE AND:2dDIAERESIS:3bPHI:1bPI:1bKAI:1",
    "bLETTER ARCHAIC KOPPAbSMALL:3bLETTER STIGMAbSMALL:2bLETTER DIGAMMAbSMALL:2bLETTER KOPPA",
    "bSMALL:2bLETTER SAMPIbSMALL:2aCOPTIC CAPITAL LETTER SHEIbSMALL:2bCAPITAL LETTER FEIbSMALL:2",
    "bCAPITAL LETTER KHEIbSMALL:2bCAPITAL LETTER HORIbSMALL:2bCAPITAL LETTER GANGIAbSMALL:2",
    "bCAPITAL LETTER SHIMAbSMALL:2bCAPITAL LETTER DEIbSMALL:2aGREEK KAPPA SYMBOLbRHO:1",
    "bLUNATE SIGMA:1bLETTER YOTbCAPITAL THETA SYMBOLbLUNATE EPSILON:1bREVERSED:3",
    "bCAPITAL LETTER SHObSMALL:2bCAPITAL LUNATE SIGMA SYMBOLcLETTER SANbSMALL:2",
    "bRHO WITH STROKE SYMBOLbCAPITAL REVERSED LUNATE SIGMA:1cDOTTED:3cREVERSED:4",
    "aCYRILLIC CAPITAL LETTER IE WITH GRAVEdIOdDJEdGJEdUKRAINIAN IEdDZEdBYELORUSSIAN-UKRAINIAN I",
    "dYIdJEdLJEdNJEdTSHEdKJEdI WITH GRAVEdSHORT UdDZHEdAdBEdVEdGHEdDEdIEdZHEdZEdIdSHORT IdKAdEL",
    "dEMdENdOdPEdERdESdTEdUdEFdHAdTSEdCHEdSHAdSHCHAdHARD SIGNdYERUdSOFT SIGNdEdYUdYA",
    "bSMALL LETTER AdBEdVEdGHEdDEdIEdZHEdZEdIdSHORT IdKAdELdEMdENdOdPEdERdESdTEdUdEFdHAdTSEdCHE",
    "dSHAdSHCHAdHARD SIGNdYERUdSOFT SIGNdEdYUdYAdIE WITH GRAVEdIOdDJEdGJEdUKRAINIAN IEdDZE",
    "dBYELORUSSIAN-UKRAINIAN IdYIdJEdLJEdNJEdTSHEdKJEdI WITH GRAVEdSHORT UdDZHE",
    "bCAPITAL LETTER OMEGAbSMALL:2bCAPITAL LETTER YATbSMALL:2bCAPITAL LETTER IOTIFIED EbSMALL:3",
    "bCAPITAL LETTER LITTLE YUSbSMALL:3bCAPITAL LETTER IOTIFIED:2bSMALL:4bCAPITAL LETTER BIG:1",
    "bSMALL:3bCAPITAL LETTER IOTIFIED:2bSMALL:4bCAPITAL LETTER KSIbSMALL:2bCAPITAL LETTER PSI",
    "bSMALL:2bCAPITAL LETTER FITAbSMALL:2bCAPITAL LETTER IZHITSAbSMALL:2",
    "bCAPITAL LETTER IZHITSA WITH DOUBLE GRAVE ACCENTbSMALL:6bCAPITAL LETTER UKbSMALL:2",
    "bCAPITAL LETTER ROUND OMEGAbSMALL:3bCAPITAL LETTER OMEGA WITH TITLObSMALL:4",
    "bCAPITAL LETTER OTbSMALL:2bCAPITAL LETTER KOPPAbSMALL:2bTHOUSANDS SIGN",
    "aCOMBINING CYRILLIC TITLOcPALATALIZATIONcDASIA PNEUMATAcPSILI:1cPOKRYTIE",
    "cHUNDRED THOUSANDS SIGNcMILLIONS:1aCYRILLIC CAPITAL LETTER SHORT I WITH TAILbSMALL:5",
    "bCAPITAL LETTER SEMISOFT SIGNbSMALL:3bCAPITAL LETTER ER WITH TICKbSMALL:4",
    "bCAPITAL LETTER GHE WITH UPTURNbSMALL:4bCAPITAL LETTER GHE WITH STROKEbSMALL:4",
    "bCAPITAL LETTER GHE WITH MIDDLE HOOKbSMALL:5bCAPITAL LETTER ZHE WITH DESCENDERbSMALL:4",
    "bCAPITAL LETTER ZE:2bSMALL:4bCAPITAL LETTER KA:2bSMALL:4",
    "bCAPITAL LETTER KA WITH VERTICAL STROKEbSMALL:5bCAPITAL LETTER KA WITH:1bSMALL:4",
    "bCAPITAL LETTER BASHKIR KAbSMALL:3bCAPITAL LETTER EN WITH DESCENDERbSMALL:4",
    "bCAPITAL LIGATURE EN GHEbSMALL:3bCAPITAL LETTER PE WITH MIDDLE HOOKbSMALL:5",
    "bCAPITAL LETTER ABKHASIAN HAbSMALL:3bCAPITAL LETTER ES WITH DESCENDERbSMALL:4",
    "bCAPITAL LETTER TE:2bSMALL:4bCAPITAL LETTER STRAIGHT UbSMALL:3",
    "bCAPITAL LETTER STRAIGHT U WITH STROKEbSMALL:5bCAPITAL LETTER HA WITH DESCENDERbSMALL:4",
    "bCAPITAL LIGATURE TE TSEbSMALL:3bCAPITAL LETTER CHE WITH DESCENDERbSMALL:4",
    "bCAPITAL LETTER CHE WITH VERTICAL STROKEbSMALL:5bCAPITAL LETTER SHHAbSMALL:2",
    "bCAPITAL LETTER ABKHASIAN CHEbSMALL:3bCAPITAL LETTER ABKHASIAN CHE WITH DESCENDERbSMALL:5",
    "bLETTER PALOCHKAbCAPITAL LETTER ZHE WITH BREVEbSMALL:4bCAPITAL LETTER KA WITH HOOKbSMALL:4",
    "bCAPITAL LETTER EL WITH TAILbSMALL:4bCAPITAL LETTER EN WITH HOOKbSMALL:4",
    "bCAPITAL LETTER EN WITH TAILbSMALL:4bCAPITAL LETTER KHAKASSIAN CHEbSMALL:3",
    "bCAPITAL LETTER EM WITH TAILbSMALL:4dPALOCHKAbCAPITAL LETTER A WITH BREVEbSMALL:4",
    "bCAPITAL LETTER A WITH DIAERESISbSMALL:4bCAPITAL LIGATURE A IEbSMALL:3",
    "bCAPITAL LETTER IE WITH BREVEbSMALL:4bCAPITAL LETTER SCHWAbSMALL:2",
    "bCAPITAL LETTER SCHWA WITH DIAERESISbSMALL:4bCAPITAL LETTER ZHE:2bSMALL:4",
    "bCAPITAL LETTER ZE:2bSMALL:4bCAPITAL LETTER ABKHASIAN DZEbSMALL:3",
    "bCAPITAL LETTER I WITH MACRONbSMALL:4bCAPITAL LETTER I WITH DIAERESISbSMALL:4",
    "bCAPITAL LETTER O:2bSMALL:4bCAPITAL LETTER BARRED ObSMALL:3",
    "bCAPITAL LETTER BARRED O WITH DIAERESISbSMALL:5bCAPITAL LETTER E:2bSMALL:4",
    "bCAPITAL LETTER U WITH MACRONbSMALL:4bCAPITAL LETTER U WITH DIAERESISbSMALL:4",
    "bCAPITAL LETTER U WITH DOUBLE ACUTEbSMALL:5bCAPITAL LETTER CHE WITH DIAERESISbSMALL:4",
    "bCAPITAL LETTER GHE WITH DESCENDERbSMALL:4bCAPITAL LETTER YERU WITH DIAERESISbSMALL:4",
    "bCAPITAL LETTER GHE WITH STROKE AND HOOKbSMALL:6bCAPITAL LETTER HA WITH:1bSMALL:4",
    "bCAPITAL LETTER HA WITH STROKEbSMALL:4bCAPITAL LETTER KOMI DEbSMALL:3",
    "bCAPITAL LETTER KOMI DJEbSMALL:3bCAPITAL LETTER KOMI ZJEbSMALL:3bCAPITAL LETTER KOMI DZJE",
    "bSMALL:3bCAPITAL LETTER KOMI LJEbSMALL:3bCAPITAL LETTER KOMI NJEbSMALL:3",
    "bCAPITAL LETTER KOMI SJEbSMALL:3bCAPITAL LETTER KOMI TJEbSMALL:3bCAPITAL LETTER REVERSED ZE",
    "bSMALL:3bCAPITAL LETTER EL WITH HOOKbSMALL:4bCAPITAL LETTER LHAbSMALL:2bCAPITAL LETTER RHA",
    "bSMALL:2bCAPITAL LETTER YAEbSMALL:2bCAPITAL LETTER QAbSMALL:2bCAPITAL LETTER WEbSMALL:2",
    "bCAPITAL LETTER ALEUT KAbSMALL:3bCAPITAL LETTER EL WITH MIDDLE HOOKbSMALL:5",
    "bCAPITAL LETTER EN:3bSMALL:5bCAPITAL LETTER PE WITH DESCENDERbSMALL:4bCAPITAL LETTER SHHA:2",
    "bSMALL:4bCAPITAL LETTER EN WITH LEFT HOOKbSMALL:5bCAPITAL LETTER DZZHEbSMALL:2",
    "bCAPITAL LETTER DCHEbSMALL:2bCAPITAL LETTER EL WITH DESCENDERbSMALL:4.",
    "aARMENIAN CAPITAL LETTER AYBdBENdGIMdDAdECHdZAdEHdETdTOdZHEdINIdLIWNdXEHdCAdKENdHOdJAdGHAD",
    "dCHEHdMENdYIdNOWdSHAdVOdCHAdPEHdJHEHdRAdSEHdVEWdTIWNdREHdCOdYIWNdPIWRdKEHdOHdFEH..",
    "bMODIFIER LETTER LEFT HALF RINGbAPOSTROPHEbEMPHASIS MARKbEXCLAMATION:1bCOMMAbQUESTION MARK",
    "bABBREVIATION:1bSMALL LETTER TURNED AYBd:1dBENdGIMdDAdECHdZAdEHdETdTOdZHEdINIdLIWNdXEHdCA",
    "dKENdHOdJAdGHADdCHEHdMENdYIdNOWdSHAdVOdCHAdPEHdJHEHdRAdSEHdVEWdTIWNdREHdCOdYIWNdPIWRdKEHdOH",
    "dFEHcLIGATURE ECH YIWNcLETTER YI WITH STROKEbFULL STOPbHYPHEN..",
    "aRIGHT-FACING ARMENIAN ETERNITY SIGNaLEFT-FACING:3aARMENIAN DRAM:1.aHEBREW ACCENT ETNAHTA",
    "cSEGOLcSHALSHELETcZAQEF QATANdGADOLcTIPEHAcREVIAcZARQAcPASHTAcYETIVcTEVIRcGERESHdMUQDAM",
    "cGERSHAYIMcQARNEY PARAcTELISHA GEDOLAcPAZERcATNAH HAFUKHcMUNAHcMAHAPAKHcMERKHAdKEFULAcDARGA",
    "cQADMAcTELISHA QETANAcYERAH BEN YOMOcOLEcILUYcDEHIcZINORbMARK MASORA CIRCLEbPOINT SHEVA",
    "cHATAF SEGOLdPATAHdQAMATScHIRIQcTSEREcSEGOLcPATAHcQAMATScHOLAMdHASER FOR VAVcQUBUTS",
    "cDAGESH OR MAPIQcMETEGbPUNCTUATION MAQAFbPOINT RAFEbPUNCTUATION PASEQbPOINT SHIN DOTcSIN:1",
    "bPUNCTUATION SOF PASUQbMARK UPPER DOTcLOWER:1bPUNCTUATION NUN HAFUKHAbPOINT QAMATS QATAN...",
    ".....bLETTER ALEFcBETcGIMELcDALETcHEcVAVcZAYINcHETcTETcYODcFINAL KAFc:1cLAMEDcFINAL MEMc:1",
    "cFINAL NUNc:1cSAMEKHcAYINcFINAL PEcPEcFINAL TSADIc:1cQOFcRESHcSHINcTAV....bYOD TRIANGLE",
    "bLIGATURE YIDDISH DOUBLE VAVdVAV YODdDOUBLE:1bPUNCTUATION GERESHcGERSHAYIM...........",
    "aARABIC NUMBER SIGNbSIGN SANAHbFOOTNOTE MARKERbSIGN SAFHAcSAMVATbNUMBER MARK ABOVE",
    "aARABIC-INDIC CUBE ROOTbFOURTH:1aARABIC RAYaARABIC-INDIC PER MILLE SIGNcTEN THOUSAND:1",
    "aAFGHANI:1aARABIC COMMAbDATE SEPARATORbPOETIC VERSE SIGNbSIGN MISRA",
    "cSALLALLAHOU ALAYHE WASSALLAMcALAYHE ASSALLAMcRAHMATULLAH ALAYHEcRADI ALLAHOU ANHU",
    "cTAKHALLUSbSMALL HIGH TAHdLIGATURE ALEF WITH LAM WITH YEHdZAINcFATHAcDAMMAcKASRAbSEMICOLON",
    "bLETTER MARKbEND OF TEXT:1bTRIPLE DOT PUNCTUATION:1bQUESTION:1bLETTER KASHMIRI YEHcHAMZA",
    "cALEF WITH MADDA ABOVEeHAMZA:1cWAW:3cALEF WITH HAMZA BELOWcYEH WITH HAMZA ABOVEcALEFcBEH",
    "cTEH MARBUTAdcTHEHcJEEMcHAHcKHAHcDALcTHALcREHcZAINcSEENcSHEENcSADcDADcTAHcZAHcAINcGHAIN",
    "cKEHEH WITH TWO DOTS ABOVEeTHREE DOTS BELOWcFARSI YEH WITH INVERTED VfTWO DOTS ABOVE",
    "fTHREE:2bTATWEELbLETTER FEHcQAFcKAFcLAMcMEEMcNOONcHEHcWAWcALEF MAKSURAcYEHbFATHATAN",
    "bDAMMATANbKASRATANbFATHAbDAMMAbKASRAbSHADDAbSUKUNbMADDAH ABOVEbHAMZA:1cBELOWbSUBSCRIPT ALEF",
    "bINVERTED DAMMAbMARK NOON GHUNNAbZWARAKAYbVOWEL SIGN SMALL V ABOVEdINVERTED:3dDOT BELOW",
    "bREVERSED DAMMAbFATHA WITH TWO DOTSbWAVY HAMZA BELOWaARABIC-INDIC DIGIT ZEROcONEcTWOcTHREE",
    "cFOURcFIVEcSIXcSEVENcEIGHTcNINEaARABIC PERCENT SIGNbDECIMAL SEPARATORbTHOUSANDS:1",
    "bFIVE POINTED STARbLETTER DOTLESS BEHdQAFcSUPERSCRIPT ALEFcALEF WASLAdWITH WAVY HAMZA ABOVE",
    "gBELOWcHIGH HAMZAeALEFeWAWcU WITH HAMZA ABOVEcHIGH HAMZA YEHcTTEHcTTEHEHcBEEHcTEH WITH RING",
    "eTHREE DOTS ABOVE DOWNWARDScPEHcTEHEHcBEHEHcHAH WITH HAMZA ABOVEeTWO DOTS VERTICAL:1cNYEH",
    "cDYEHcHAH WITH THREE DOTS ABOVEcTCHEHcTCHEHEHcDDALcDAL WITH RINGeDOT BELOWgAND SMALL TAH",
    "cDAHALcDDAHALcDULcDAL WITH THREE DOTS ABOVE DOWNWARDSeFOUR DOTS ABOVEcRREHcREH WITH SMALL V",
    "eRINGeDOT BELOWeSMALL V:1eDOT BELOW AND DOT ABOVEeTWO DOTS:1cJEHcREH WITH FOUR DOTS ABOVE",
    "cSEEN WITH DOT BELOW AND DOT:1eTHREE DOTS BELOWhAND THREE DOTS ABOVE",
    "cSAD WITH TWO DOTS BELOWeTHREE DOTS ABOVEcTAH:4cAIN:4cDOTLESS FEHcFEH WITH DOT MOVED BELOW",
    "f:1cVEHcFEH WITH THREE DOTS BELOWcPEHEHcQAF WITH DOT ABOVEeTHREE DOTS:1cKEHEHcSWASH KAF",
    "cKAF WITH RINGeDOT ABOVEcNGcKAF WITH THREE DOTS BELOWcGAFdWITH RINGcNGOEH",
    "cGAF WITH TWO DOTS BELOWcGUEHcGAF WITH THREE DOTS ABOVEcLAM WITH SMALL VeDOT ABOVE",
    "eTHREE DOTS:1gBELOWcNOON WITH DOT:1dGHUNNAcRNOONcNOON WITH RINGeTHREE DOTS ABOVE",
    "cHEH DOACHASHMEEcTCHEH WITH DOT ABOVEcHEH WITH YEH:1dGOALeWITH HAMZA ABOVEcTEH MARBUTA GOAL",
    "cWAW WITH RINGcKIRGHIZ OEcOEcUcYUcKIRGHIZ:1cWAW WITH TWO DOTS ABOVEcVEcFARSI YEH",
    "cYEH WITH TAILeSMALL VcWAW WITH DOT ABOVEcEcYEH WITH THREE DOTS BELOWdBARREE",
    "eWITH HAMZA ABOVEbFULL STOPbLETTER AEbSMALL HIGH LIGATURE SAD WITH LAM WITH ALEF MAKSURA",
    "eQAF:5dMEEM INITIAL FORMdLAM ALEFdJEEMdTHREE DOTSdSEENbEND OF AYAHbSTART OF RUB EL HIZB",
    "bSMALL HIGH ROUNDED ZEROdUPRIGHT RECTANGULAR:1dDOTLESS HEAD OF KHAHdMEEM ISOLATED FORM",
    "cLOW SEENcHIGH MADDAcWAWcYEHcHIGH:1dNOONbPLACE OF SAJDAHbEMPTY CENTRE LOW STOPdHIGH:1",
    "bROUNDED HIGH STOP WITH FILLED CENTREbSMALL LOW MEEMbLETTER DAL WITH INVERTED VcREH:3",
    "aEXTENDED ARABIC-INDIC DIGIT ZEROdONEdTWOdTHREEdFOURdFIVEdSIXdSEVENdEIGHTdNINE",
    "aARABIC LETTER SHEEN WITH DOT BELOWcDAD:3cGHAIN:3bSIGN SINDHI AMPERSANDdPOSTPOSITION MEN",
    "bLETTER HEH WITH INVERTED VaSYRIAC END OF PARAGRAPHbSUPRALINEAR FULL STOPbSUBLINEAR:2",
    "bSUPRALINEAR COLONbSUBLINEAR:1bHORIZONTAL:1bCOLON SKEWED LEFTdRIGHT",
    "bSUPRALINEAR COLON SKEWED LEFTbSUBLINEAR COLON SKEWED RIGHTbCONTRACTIONbHARKLEAN OBELUS",
    "cMETOBELUScASTERISCUS.bABBREVIATION MARKbLETTER ALAPHcSUPERSCRIPT:1cBETHcGAMALdGARSHUNI",
    "cDALATHcDOTLESS DALATH RISHcHEcWAWcZAINcHETHcTETHdGARSHUNIcYUDHdHEcKAPHcLAMADHcMIMcNUN",
    "cSEMKATHcFINAL:1cEcPEcREVERSED:1cSADHEcQAPHcRISHcSHINcTAWcPERSIAN BHETHdGHAMALdDHALATH",
    "bPTHAHA ABOVEcBELOWcDOTTEDbZQAPHA ABOVEcBELOWcDOTTEDbRBASA ABOVEcBELOW",
    "bDOTTED ZLAMA HORIZONTALdANGULARbHBASA ABOVEcBELOWbHBASA-ESASA DOTTEDbESASA ABOVEcBELOW",
    "bRWAHAbFEMININE DOTbQUSHSHAYAbRUKKAKHAbTWO VERTICAL DOTS ABOVEeBELOWbTHREE DOTS ABOVEdBELOW",
    "bOBLIQUE LINE ABOVEdBELOWbMUSICbBARREKH..bLETTER SOGDIAN ZHAINdKHAPHdFE",
    "aARABIC LETTER BEH WITH THREE DOTS HORIZONTALLY BELOWeDOT BELOW AND THREE DOTS ABOVE",
    "eTHREE DOTS POINTING UPWARDS BELOWjAND TWO DOTS ABOVEeTWO DOTS BELOW AND DOT:1",
    "eINVERTED SMALL V BELOWeSMALL VcHAH WITH TWO DOTS ABOVEeTHREE DOTS POINTING UPWARDS BELOW",
    "cDAL WITH TWO DOTS VERTICALLY BELOW AND SMALL TAHeINVERTED SMALL V BELOWcREH WITH STROKE",
    "cSEEN WITH FOUR DOTS ABOVEcAIN WITH TWO:2eTHREE DOTS POINTING DOWNWARDS:1",
    "eTWO DOTS VERTICALLY:1cFEH WITH TWO DOTS BELOWeTHREE DOTS POINTING UPWARDS:1",
    "cKEHEH WITH DOT ABOVEeTHREE DOTS:1gPOINTING UPWARDS BELOWcMEEM WITH DOT ABOVEfBELOW",
    "cNOON WITH TWO DOTS:1eSMALL TAHfVcLAM WITH BARcREH WITH TWO DOTS VERTICALLY ABOVEeHAMZA:1",
    "cSEEN WITH TWO DOTS VERTICALLY:1cHAH WITH SMALL ARABIC LETTER TAH BELOWiAND TWO DOTScSEEN:8",
    "cREH:8cHAH WITH SMALL ARABIC LETTER TAH ABOVEcALEF WITH EXTENDED ARABIC-INDIC DIGIT TWO:1",
    "hTHREE:1cFARSI YEH WITH EXTENDED ARABIC-INDIC DIGIT TWO:1iTHREE:1iFOUR BELOW",
    "cWAW WITH EXTENDED ARABIC-INDIC DIGIT TWO ABOVEhTHREE:1",
    "cYEH BARREE WITH EXTENDED ARABIC-INDIC DIGIT TWO:1iTHREE:1",
    "cHAH WITH EXTENDED ARABIC-INDIC DIGIT FOUR BELOW",
    "cSEEN WITH EXTENDED ARABIC-INDIC DIGIT FOUR ABOVEeINVERTED VcKAF WITH TWO DOTS ABOVE",
    "aTHAANA LETTER HAAcSHAVIYANIcNOONUcRAAcBAAcLHAVIYANIcKAAFUcALIFUcVAAVUcMEEMUcFAAFUcDHAALU",
    "cTHAAcLAAMUcGAAFUcGNAVIYANIcSEENUcDAVIYANIcZAVIYANIcTAVIYANIcYAAcPAVIYANIcJAVIYANI",
    "cCHAVIYANIcTTAAcHHAAcKHAAcTHAALUcZAAcSHEENUcSAADHUcDAADHUcTOcZOcAINUcGHAINUcQAAFUcWAAVU",
    "bABAFILIbAABAAFILIbIBIFILIbEEBEEFILIbUBUFILIbOOBOOFILIbEBEFILIbEYBEYFILIbOBOFILIbOABOAFILI",
    "bSUKUNbLETTER NAA..............aNKO DIGIT ZEROcONEcTWOcTHREEcFOURcFIVEcSIXcSEVENcEIGHTcNINE",
    "bLETTER AcEEcIcEcUcOOcOcDAGBASINNAcNcBAcPAcTAcJAcCHAcDAcRAcRRAcSAcGBAcFAcKAcLAcNA WOLOSOcMA",
    "cNYAcNAcHAcWAcYAcNYA WOLOSOcJONA JAdCHAdRAbCOMBINING SHORT HIGH TONEdLOW:1dRISING:1",
    "cLONG DESCENDING:1dHIGH:1dLOW:1dRISING:1cNASALIZATION MARKcDOUBLE DOT ABOVE",
    "bHIGH TONE APOSTROPHEbLOW:2bSYMBOL OO DENNENcGBAKURUNENbCOMMAbEXCLAMATION MARKbLAJANYALAN..",
    "bDANTAYALANbDOROME SIGNbTAMAN:1aSAMARITAN LETTER ALAFcBITcGAMANcDALATcIYcBAAcZENcITcTITcYUT",
    "cKAAFcLABATcMIMcNUNcSINGAATcINcFIcTSAADIYcQUFcRISHcSHANcTAAFbMARK INcIN-ALAFcOCCLUSION",
    "cDAGESHbMODIFIER LETTER EPENTHETIC YUTbMARK:2bVOWEL SIGN LONG EdEdOVERLONG AAdLONG:1dAA",
    "dOVERLONG AdLONG AdAbMODIFIER LETTER SHORT AbVOWEL SIGN:2dLONG UdUbMODIFIER LETTER I",
    "bVOWEL SIGN LONG IdIdOdSUKUNbMARK NEQUDAA..bPUNCTUATION:1cAFSAAQcANGEDcBAUcATMAAU",
    "cSHIYYAALAAbABBREVIATION MARKbPUNCTUATION MELODIC QITSAcZIQAAcQITSAcZAEFcTURUcARKAANU",
    "cSOF MASHFAATcANNAAU.aMANDAIC LETTER HALQAcABcAGcADcAHcUSHENNAcAZcITcATTcAKSAcAKcALcAMcAN",
    "cAScINcAPcASZcAQcARcASHcATcDUSHENNAcKADcAINbAFFRICATION MARKbVOCALIZATION:1bGEMINATION:1..",
    "bPUNCTUATION.aSYRIAC LETTER MALAYALAM NGAdJAdNYAdTTAdNNAdNNNAdBHAdRAdLLAdLLLAdSSA.....",
    "aARABIC LETTER ALEF WITH ATTACHED FATHAfTOP RIGHT:1eRIGHT MIDDLE STROKEeLEFT:2",
    "eATTACHED KASRAfBOTTOM RIGHT:1fROUND DOT ABOVEfRIGHT ROUND DOTfLEFT:2fROUND DOT BELOW",
    "eDOT ABOVEeATTACHED TOP RIGHT FATHA AND:2eRIGHT MIDDLE STROKE:3",
    "eATTACHED BOTTOM RIGHT KASRA:3fTOP RIGHT FATHA AND LEFT RINGeRIGHT MIDDLE STROKE:3",
    "eATTACHED BOTTOM RIGHT KASRA:3fRIGHT HAMZAfLEFT:1bTATWEEL WITH OVERSTRUCK:1eWAW",
    "dTWO DOTS BELOWbLETTER THIN YEHbBASELINE ROUND DOTbRAISED:2",
    "bLETTER NOON WITH INVERTED SMALL VcHAH WITH INVERTED SMALL V BELOWcTAH WITH DOT:1",
    "eTHREE DOTS:1cKEHEH WITH TWO DOTS VERTICALLY:1bVERTICAL TAIL.bPOUND MARK ABOVEbPIASTRE:2...",
    "...bSMALL HIGH WORD AL-JUZcLOW WORD ISHMAAMeIMAALAeTASHEELbMADDA WAAJIB",
    "bSUPERSCRIPT ALEF MOKHASSASbDOUBLED MADDAbHALF MADDA OVER:1bLETTER BEH WITH SMALL V BELOW",
    "eHAMZA ABOVEcJEEM WITH TWO DOTS:1cTAH:4cFEH WITH DOT BELOW AND THREE:2cQAF WITH DOT BELOW",
    "cLAM WITH DOUBLE BARcMEEM WITH THREE DOTS ABOVEcYEH WITH TWO DOTS BELOW AND HAMZA:1iDOT:1",
    "cREH WITH LOOPcWAW WITH DOT WITHINcROHINGYA YEHcLOW ALEFcDAL WITH THREE DOTS BELOWcSAD:4",
    "cGAF WITH INVERTED STROKEcSTRAIGHT WAWcZAIN WITH INVERTED V ABOVEcAIN WITH THREE DOTS BELOW",
    "cKAF WITH DOT:1cQAF WITH DOT BELOW AND NO DOTS ABOVEcBEH WITH SMALL MEEM:1cPEH:4",
    "cTEH WITH SMALL TEH:1cREH WITH SMALL NOON:1cYEH WITH TWO DOTS BELOW AND:3cAFRICAN FEHdQAF",
    "dNOONcPEH WITH SMALL VcTEH:3cTTEH:3cTCHEH:3cKEHEH:3cGHAIN WITH THREE DOTS ABOVE",
    "cAFRICAN QAF:4cJEEM:4gBELOWcLAM WITH SMALL ARABIC LETTER TAH ABOVEcGRAFbSMALL FARSI YEH",
    "cHIGH:2dYEH BARREE WITH TWO DOTS BELOWdWORD SAHdZAHbLARGE ROUND DOT ABOVEeBELOWbSUKUN:1",
    "bLARGE CIRCLE:1cROUND DOT INSIDE:2bSMALL LOW WAWcHIGH WORD AR-RUBdSADdAINdQAF",
    "dNOON WITH KASRAcLOW:3cHIGH WORD ATH-THALATHAeAS-SAJDAeAN-NISFeSAKTAeQIFeWAQFA",
    "dFOOTNOTE MARKERdSIGN SAFHAbDISPUTED END OF AYAHbTURNED DAMMA BELOWbCURLY FATHAcDAMMAcKASRA",
    "cFATHATANcDAMMATANcKASRATANbTONE ONE DOT ABOVEcTWO DOTS:1cLOOP:1cONE DOT BELOWcTWO DOTS:1",
    "cLOOP:1bOPEN FATHATANcDAMMATANcKASRATANbSMALL HIGH WAWbFATHA WITH RINGdDOT ABOVE",
    "bKASRA WITH DOT BELOWbLEFT ARROWHEAD ABOVEbRIGHT:2bLEFT ARROWHEAD BELOWbRIGHT:2",
    "bDOUBLE RIGHT ARROWHEAD ABOVEfWITH DOTb:5bDAMMA:2bMARK SIDEWAYS NOON GHUNNA",
    "aDEVANAGARI SIGN INVERTED CANDRABINDUc:1cANUSVARAcVISARGAbLETTER SHORT AcAcAAcIcIIcUcUU",
    "cVOCALIC RdLcCANDRA EcSHORT EcEcAIcCANDRA OcSHORT OcOcAUcKAcKHAcGAcGHAcNGAcCAcCHAcJAcJHA",
    "cNYAcTTAcTTHAcDDAcDDHAcNNAcTAcTHAcDAcDHAcNAcNNNAcPAcPHAcBAcBHAcMAcYAcRAcRRAcLAcLLAcLLLAcVA",
    "cSHAcSSAcSAcHAbVOWEL SIGN OEdOOEbSIGN NUKTAcAVAGRAHAbVOWEL SIGN AAdIdIIdUdUUdVOCALIC ReRR",
    "dCANDRA EdSHORT EdEdAIdCANDRA OdSHORT OdOdAUbSIGN VIRAMAbVOWEL SIGN PRISHTHAMATRA EdAWbOM",
    "bSTRESS SIGN UDATTAdANUDATTAbGRAVE ACCENTbACUTE:1bVOWEL SIGN CANDRA LONG EdUEdUUEbLETTER QA",
    "cKHHAcGHHAcZAcDDDHAcRHAcFAcYYAcVOCALIC RRdLLbVOWEL SIGN VOCALIC LeLLbDANDAbDOUBLE:1",
    "bDIGIT ZEROcONEcTWOcTHREEcFOURcFIVEcSIXcSEVENcEIGHTcNINEbABBREVIATION SIGN",
    "bSIGN HIGH SPACING DOTbLETTER CANDRA AcOEcOOEcAWcUEcUUEcMARWARI DDAcZHAcHEAVY YAcGGAcJJA",
    "cGLOTTAL STOPcDDDAcBBAaBENGALI ANJIbSIGN CANDRABINDUcANUSVARAcVISARGA.bLETTER AcAAcIcIIcU",
    "cUUcVOCALIC RdL..cEcAI..cOcAUcKAcKHAcGAcGHAcNGAcCAcCHAcJAcJHAcNYAcTTAcTTHAcDDAcDDHAcNNAcTA",
    "cTHAcDAcDHAcNA.cPAcPHAcBAcBHAcMAcYAcRA.cLA...cSHAcSSAcSAcHA..bSIGN NUKTAcAVAGRAHA",
    "bVOWEL SIGN AAdIdIIdUdUUdVOCALIC ReRR..dEdAI..dOdAUbSIGN VIRAMAbLETTER KHANDA TA........",
    "bAU LENGTH MARK....bLETTER RRAcRHA.cYYAcVOCALIC RRdLLbVOWEL SIGN VOCALIC LeLL..bDIGIT ZERO",
    "cONEcTWOcTHREEcFOURcFIVEcSIXcSEVENcEIGHTcNINEbLETTER RA WITH MIDDLE DIAGONALeLOWER:1",
    "bRUPEE MARKcSIGNbCURRENCY NUMERATOR ONEdTWOdTHREEdFOURdONE LESS THAN THE DENOMINATOR",
    "cDENOMINATOR SIXTEENbISSHARbGANDA MARKbLETTER VEDIC ANUSVARAbABBREVIATION SIGNbSANDHI MARK.",
    ".aGURMUKHI SIGN ADAK BINDIc:1cVISARGA.bLETTER AcAAcIcIIcUcUU....cEEcAI..cOOcAUcKAcKHAcGA",
    "cGHAcNGAcCAcCHAcJAcJHAcNYAcTTAcTTHAcDDAcDDHAcNNAcTAcTHAcDAcDHAcNA.cPAcPHAcBAcBHAcMAcYAcRA.",
    "cLAcLLA.cVAcSHA.cSAcHA..bSIGN NUKTA.bVOWEL SIGN AAdIdIIdUdUU....dEEdAI..dOOdAUbSIGN VIRAMA.",
    "..cUDAAT.......bLETTER KHHAcGHHAcZAcRRA.cFA.......bDIGIT ZEROcONEcTWOcTHREEcFOURcFIVEcSIX",
    "cSEVENcEIGHTcNINEbTIPPIbADDAKbIRIbURAbEK ONKARbSIGN YAKASHbABBREVIATION SIGN..........",
    "aGUJARATI SIGN CANDRABINDUcANUSVARAcVISARGA.bLETTER AcAAcIcIIcUcUUcVOCALIC RdL",
    "bVOWEL CANDRA E.bLETTER EcAIbVOWEL CANDRA O.bLETTER OcAUcKAcKHAcGAcGHAcNGAcCAcCHAcJAcJHA",
    "cNYAcTTAcTTHAcDDAcDDHAcNNAcTAcTHAcDAcDHAcNA.cPAcPHAcBAcBHAcMAcYAcRA.cLAcLLA.cVAcSHAcSSAcSA",
    "cHA..bSIGN NUKTAcAVAGRAHAbVOWEL SIGN AAdIdIIdUdUUdVOCALIC ReRRdCANDRA E.dEdAIdCANDRA O.dO",
    "dAUbSIGN VIRAMA..bOM...............bLETTER VOCALIC RRdLLbVOWEL SIGN VOCALIC LeLL..",
    "bDIGIT ZEROcONEcTWOcTHREEcFOURcFIVEcSIXcSEVENcEIGHTcNINEbABBREVIATION SIGNbRUPEE:1.......",
    "bLETTER ZHAbSIGN SUKUNcSHADDAcMADDAHcTHREE-DOT NUKTA ABOVEcCIRCLE:2cTWO-CIRCLE:2.",
    "aORIYA SIGN CANDRABINDUcANUSVARAcVISARGA.bLETTER AcAAcIcIIcUcUUcVOCALIC RdL..cEcAI..cOcAU",
    "cKAcKHAcGAcGHAcNGAcCAcCHAcJAcJHAcNYAcTTAcTTHAcDDAcDDHAcNNAcTAcTHAcDAcDHAcNA.cPAcPHAcBAcBHA",
    "cMAcYAcRA.cLAcLLA.cVAcSHAcSSAcSAcHA..bSIGN NUKTAcAVAGRAHAbVOWEL SIGN AAdIdIIdUdUUdVOCALIC R",
    "eRR..dEdAI..dOdAUbSIGN VIRAMA.......cOVERLINEbAI LENGTH MARKbAU:2....bLETTER RRAcRHA.cYYA",
    "cVOCALIC RRdLLbVOWEL SIGN VOCALIC LeLL..bDIGIT ZEROcONEcTWOcTHREEcFOURcFIVEcSIXcSEVENcEIGHT",
    "cNINEbISSHARbLETTER WAbFRACTION ONE QUARTERdHALFcTHREE QUARTERScONE SIXTEENTHdEIGHTH",
    "cTHREE SIXTEENTHS..........aTAMIL SIGN ANUSVARAcVISARGA.bLETTER AcAAcIcIIcUcUU...cEcEEcAI.",
    "cOcOOcAUcKA...cNGAcCA.cJA.cNYAcTTA...cNNAcTA...cNAcNNNAcPA...cMAcYAcRAcRRAcLAcLLAcLLLAcVA",
    "cSHAcSSAcSAcHA....bVOWEL SIGN AAdIdIIdUdUU...dEdEEdAI.dOdOOdAUbSIGN VIRAMA..bOM......",
    "bAU LENGTH MARK..............bDIGIT ZEROcONEcTWOcTHREEcFOURcFIVEcSIXcSEVENcEIGHTcNINE",
    "bNUMBER TENcONE HUNDREDdTHOUSANDbDAY SIGNbMONTH:1bYEAR:1bDEBIT:1bCREDIT:1bAS ABOVE:1",
    "bRUPEE:1bNUMBER:1.....aTELUGU SIGN COMBINING CANDRABINDU ABOVEcCANDRABINDUcANUSVARAcVISARGA",
    "cCOMBINING ANUSVARA ABOVEbLETTER AcAAcIcIIcUcUUcVOCALIC RdL.cEcEEcAI.cOcOOcAUcKAcKHAcGAcGHA",
    "cNGAcCAcCHAcJAcJHAcNYAcTTAcTTHAcDDAcDDHAcNNAcTAcTHAcDAcDHAcNA.cPAcPHAcBAcBHAcMAcYAcRAcRRA",
    "cLAcLLAcLLLAcVAcSHAcSSAcSAcHA..bSIGN NUKTAcAVAGRAHAbVOWEL SIGN AAdIdIIdUdUUdVOCALIC ReRR.dE",
    "dEEdAI.dOdOOdAUbSIGN VIRAMA.......bLENGTH MARKbAI:2.bLETTER TSAcDZAcRRRA..cNAKAARA POLLU..",
    "cVOCALIC RRdLLbVOWEL SIGN VOCALIC LeLL..bDIGIT ZEROcONEcTWOcTHREEcFOURcFIVEcSIXcSEVENcEIGHT",
    "cNINE.......bSIGN SIDDHAMbFRACTION DIGIT ZERO FOR ODD POWERS OF FOURdONE:5dTWO:5dTHREE:5",
    "dONE FOR EVEN:3dTWO:5dTHREE:5bSIGN TUUMUaKANNADA SIGN SPACING CANDRABINDUc:1cANUSVARA",
    "cVISARGAcSIDDHAMbLETTER AcAAcIcIIcUcUUcVOCALIC RdL.cEcEEcAI.cOcOOcAUcKAcKHAcGAcGHAcNGAcCA",
    "cCHAcJAcJHAcNYAcTTAcTTHAcDDAcDDHAcNNAcTAcTHAcDAcDHAcNA.cPAcPHAcBAcBHAcMAcYAcRAcRRAcLAcLLA.",
    "cVAcSHAcSSAcSAcHA..bSIGN NUKTAcAVAGRAHAbVOWEL SIGN AAdIdIIdUdUUdVOCALIC ReRR.dEdEEdAI.dOdOO",
    "dAUbSIGN VIRAMA.......bLENGTH MARKbAI:2......bLETTER NAKAARA POLLUcFA.cVOCALIC RRdLL",
    "bVOWEL SIGN VOCALIC LeLL..bDIGIT ZEROcONEcTWOcTHREEcFOURcFIVEcSIXcSEVENcEIGHTcNINE.",
    "bSIGN JIHVAMULIYAcUPADHMANIYA.............aMALAYALAM SIGN COMBINING ANUSVARA ABOVE",
    "cCANDRABINDUcANUSVARAcVISARGAbLETTER VEDIC ANUSVARAcAcAAcIcIIcUcUUcVOCALIC RdL.cEcEEcAI.cO",
    "cOOcAUcKAcKHAcGAcGHAcNGAcCAcCHAcJAcJHAcNYAcTTAcTTHAcDDAcDDHAcNNAcTAcTHAcDAcDHAcNAcNNNAcPA",
    "cPHAcBAcBHAcMAcYAcRAcRRAcLAcLLAcLLLAcVAcSHAcSSAcSAcHAcTTTAbSIGN VERTICAL BAR VIRAMA",
    "cCIRCULAR:1cAVAGRAHAbVOWEL SIGN AAdIdIIdUdUUdVOCALIC ReRR.dEdEEdAI.dOdOOdAUbSIGN VIRAMA",
    "bLETTER DOT REPHbSIGN PARA....bLETTER CHILLU MdYdLLLbAU LENGTH MARK",
    "bFRACTION ONE ONE-HUNDRED-AND-SIXTIETHdFORTIETHcTHREE EIGHTIETHScONE TWENTIETHdTENTH",
    "cTHREE TWENTIETHScONE FIFTHbLETTER ARCHAIC IIcVOCALIC RRdLLbVOWEL SIGN VOCALIC LeLL..",
    "bDIGIT ZEROcONEcTWOcTHREEcFOURcFIVEcSIXcSEVENcEIGHTcNINEbNUMBER TENcONE HUNDREDdTHOUSAND",
    "bFRACTION ONE QUARTERdHALFcTHREE QUARTERScONE SIXTEENTHdEIGHTHcTHREE SIXTEENTHSbDATE MARK",
    "bLETTER CHILLU NNdNdRRdLdLLdK.aSINHALA SIGN CANDRABINDUcANUSVARAYAcVISARGAYA.bLETTER AYANNA",
    "cAAYANNAcAEYANNAcAEEYANNAcIYANNAcIIYANNAcUYANNAcUUYANNAcIRUYANNAcIRUUYANNAcILUYANNA",
    "cILUUYANNAcEYANNAcEEYANNAcAIYANNAcOYANNAcOOYANNAcAUYANNA...cALPAPRAANA KAYANNA",
    "cMAHAAPRAANA:1cALPAPRAANA GAYANNAcMAHAAPRAANA:1cKANTAJA NAASIKYAYAcSANYAKA GAYANNA",
    "cALPAPRAANA CAYANNAcMAHAAPRAANA:1cALPAPRAANA JAYANNAcMAHAAPRAANA:1cTAALUJA NAASIKYAYA",
    "dSANYOOGA NAAKSIKYAYAcSANYAKA JAYANNAcALPAPRAANA TTAYANNAcMAHAAPRAANA:1cALPAPRAANA DDAYANNA",
    "cMAHAAPRAANA:1cMUURDHAJA NAYANNAcSANYAKA DDAYANNAcALPAPRAANA TAYANNAcMAHAAPRAANA:1",
    "cALPAPRAANA DAYANNAcMAHAAPRAANA:1cDANTAJA NAYANNA.cSANYAKA DAYANNAcALPAPRAANA PAYANNA",
    "cMAHAAPRAANA:1cALPAPRAANA BAYANNAcMAHAAPRAANA:1cMAYANNAcAMBA BAYANNAcYAYANNAcRAYANNA.",
    "cDANTAJA LAYANNA..cVAYANNAcTAALUJA SAYANNAcMUURDHAJA:1cDANTAJA:1cHAYANNAcMUURDHAJA LAYANNA",
    "cFAYANNA...bSIGN AL-LAKUNA....bVOWEL SIGN AELA-PILLAdKETTI AEDA-PILLAdDIGA:1dKETTI IS-PILLA",
    "dDIGA:1dKETTI PAA-PILLA.dDIGA:1.dGAETTA-PILLAdKOMBUVAdDIGA:1dKOMBU DEKA",
    "dKOMBUVA HAA AELA-PILLAfDIGA:1fGAYANUKITTAd:1......bLITH DIGIT ZEROdONEdTWOdTHREEdFOURdFIVE",
    "dSIXdSEVENdEIGHTdNINE..bVOWEL SIGN DIGA GAETTA-PILLAeGAYANUKITTAbPUNCTUATION KUNDDALIYA....",
    "........aTHAI CHARACTER KO KAIcKHO KHAIdKHUATdKHWAIdKHONdRAKHANGcNGO NGUcCHO CHANdCHING",
    "dCHANGcSO SOcCHO CHOEcYO YINGcDO CHADAcTO PATAKcTHO THANdNANGMONTHOdPHUTHAOcNO NENcDO DEK",
    "cTO TAOcTHO THUNGdTHAHANdTHONGcNO NUcBO BAIMAIcPO PLAcPHO PHUNGcFO FAcPHO PHANcFO FAN",
    "cPHO SAMPHAOcMO MAcYO YAKcRO RUAcRUcLO LINGcLUcWO WAENcSO SALAdRUSIdSUAcHO HIPcLO CHULA",
    "cO ANGcHO NOKHUKcPAIYANNOIcSARA AcMAI HAN-AKATcSARA AAdAMdIdIIdUEdUEEdUdUUcPHINTHU....",
    "bCURRENCY SYMBOL BAHTbCHARACTER SARA EdAEdOdAI MAIMUANeMAIMALAIcLAKKHANGYAOcMAIYAMOK",
    "cMAITAIKHUcMAI EKdTHOdTRIdCHATTAWAcTHANTHAKHATcNIKHAHITcYAMAKKANcFONGMANbDIGIT ZEROcONEcTWO",
    "cTHREEcFOURcFIVEcSIXcSEVENcEIGHTcNINEbCHARACTER ANGKHANKHUcKHOMUT..........................",
    "...........aLAO LETTER KOcKHO SUNG.dTAM.cPALI GHAcNGOcCOcPALI CHAcSO TAM.cPALI JHAcNYO",
    "cPALI NYAdTTAdTTHAdDDAdDDHAdNNAcDOcTOcTHO SUNGdTAMcPALI DHAcNOcBOcPOcPHO SUNGcFO TAMcPHO:1",
    "cFO SUNGcPALI BHAcMOcYOcLO LING.dLOOT.cWOcSANSKRIT SHAdSSAcSO SUNGcHO:1cPALI LLAcOcHO TAM",
    "bELLIPSISbVOWEL SIGN AdMAI KANdAAdAMdIdIIdYdYYdUdUUbSIGN PALI VIRAMAbVOWEL SIGN MAI KON",
    "bSEMIVOWEL SIGN LOdNYO..bVOWEL SIGN EdEIdOdAYdAI.bKO LA.bTONE MAI EKdTHOdTIdCATAWA",
    "bCANCELLATION MARKbNIGGAHITA..bDIGIT ZEROcONEcTWOcTHREEcFOURcFIVEcSIXcSEVENcEIGHTcNINE..",
    "bHO NOcMObLETTER KHMU GOdNYO................................aTIBETAN SYLLABLE OM",
    "bMARK GTER YIG MGO TRUNCATED Af-UM RNAM BCAD MAgGTER TSHEG:1cINITIAL YIG MGO MDUN:1",
    "cCLOSING YIG MGO SGAB:1cCARET YIG MGO PHUR SHAD:1cYIG MGO TSHEG:2cSBRUL SHADcBSKUR YIG MGO",
    "cBKA- SHOG:2cINTERSYLLABIC TSHEGcDELIMITER TSHEG BSTARcSHADcNYIS:1cTSHEG:1cNYIS:2",
    "cRIN CHEN SPUNGS:1cRGYA GRAM:1cCARET -DZUD RTAGS ME LONG CANcGTER TSHEG",
    "bLOGOTYPE SIGN CHAD RTAGSdLHAG:1bASTROLOGICAL SIGN SGRA GCAN -CHAR:1d-KHYUD PAdSDONG TSHUGS",
    "bSIGN RDEL DKAR GCIGeGNYISeGSUMdNAG GCIGeGNYISdDKAR RDEL NAGbDIGIT ZEROcONEcTWOcTHREEcFOUR",
    "cFIVEcSIXcSEVENcEIGHTcNINEcHALF ONEdTWOdTHREEdFOURdFIVEdSIXdSEVENdEIGHTdNINEdZERO",
    "bMARK BSDUS RTAGScNGAS BZUNG NYI ZLAcCARET -DZUD RTAGS BZHI MIG CANcNGAS BZUNG SGOR RTAGS",
    "cCHE MGOcTSA -PHRUcGUG RTAGS GYONeGYAScANG KHANG GYONeGYASbSIGN YAR TSHEScMAR:1bLETTER KA",
    "cKHAcGAcGHAcNGAcCAcCHAcJA.cNYAcTTAcTTHAcDDAcDDHAcNNAcTAcTHAcDAcDHAcNAcPAcPHAcBAcBHAcMAcTSA",
    "cTSHAcDZAcDZHAcWAcZHAcZAc-AcYAcRAcLAcSHAcSSAcSAcHAcAcKSSAcFIXED-FORM RAcKKAcRRA....",
    "bVOWEL SIGN AAdIdIIdUdUUdVOCALIC ReRReLeLLdEdEEdOdOObSIGN RJES SU NGA ROcRNAM BCAD",
    "bVOWEL SIGN REVERSED IeIIbSIGN NYI ZLA NAA DAcSNA LDANbMARK HALANTAcPALUTAbSIGN LCI RTAGS",
    "cYANG:1cLCE TSA CANcMCHU:1cGRU CAN RGYINGSdMED:1cINVERTED MCHU CANbSUBJOINED SIGN LCE TSA:1",
    "dMCHU:1dINVERTED:2cLETTER KAdKHAdGAdGHAdNGAdCAdCHAdJA.dNYAdTTAdTTHAdDDAdDDHAdNNAdTAdTHAdDA",
    "dDHAdNAdPAdPHAdBAdBHAdMAdTSAdTSHAdDZAdDZHAdWAdZHAdZAd-AdYAdRAdLAdSHAdSSAdSAdHAdAdKSSA",
    "dFIXED-FORM WAeYAeRA.bKU RU KHAeBZHI MIG CANbCANTILLATION SIGN HEAVY BEATdLIGHT:1dCANG TE-U",
    "dSBUB -CHALbSYMBOL DRIL BUcRDO RJEcPADMA GDANcRDO RJE RGYA GRAMcPHUR PAcNOR BUeNYIS -KHYIL",
    "eGSUM:1eBZHI:1.bSIGN RDEL NAG RDEL DKAReGSUMbMARK BSKA- SHOG GI MGO RGYANcMNYAM YIG:3",
    "cNYIS TSHEGcINITIAL BRDA RNYING YIG MGO MDUN MAcCLOSING BRDA RNYING YIG MGO SGAB:1",
    "aRIGHT-FACING SVASTI SIGNaLEFT-FACING:2aRIGHT-FACING SVASTI SIGN WITH DOTSaLEFT-FACING:4",
    "aTIBETAN MARK LEADING MCHAN RTAGScTRAILING:2.....................................",
    "aMYANMAR LETTER KAcKHAcGAcGHAcNGAcCAcCHAcJAcJHAcNYAcNNYAcTTAcTTHAcDDAcDDHAcNNAcTAcTHAcDA",
    "cDHAcNAcPAcPHAcBAcBHAcMAcYAcRAcLAcWAcSAcHAcLLAcAcSHAN AcIcIIcUcUUcEcMON EcOcAU",
    "bVOWEL SIGN TALL AAdAAdIdIIdUdUUdEdAIdMON IIeOdE ABOVEbSIGN ANUSVARAcDOT BELOWcVISARGA",
    "cVIRAMAcASATbCONSONANT SIGN MEDIAL YAeRAeWAeHAbLETTER GREAT SAbDIGIT ZEROcONEcTWOcTHREE",
    "cFOURcFIVEcSIXcSEVENcEIGHTcNINEbSIGN LITTLE SECTIONc:1bSYMBOL LOCATIVEcCOMPLETED",
    "cAFOREMENTIONEDcGENITIVEbLETTER SHAcSSAcVOCALIC RdRRdLdLLbVOWEL SIGN VOCALIC ReRReLeLL",
    "bLETTER MON NGAdJHAdBBAdBBEbCONSONANT SIGN MON MEDIAL NAfMAfLAbLETTER SGAW KAREN SHA",
    "bVOWEL SIGN SGAW KAREN EUbTONE MARK SGAW KAREN HATHIfKE PHObLETTER WESTERN PWO KAREN THA",
    "fPWAbVOWEL SIGN WESTERN PWO KAREN EUgUEbSIGN WESTERN PWO KAREN TONE-1++++",
    "bLETTER EASTERN PWO KAREN NNAfYWAfGHWAbVOWEL SIGN GEBA KAREN IdKAYAH OEeUeEEbLETTER SHAN KA",
    "dKHAdGAdCAdZAdNYAdDAdNAdPHAdFAdBAdTHAdHAbCONSONANT SIGN SHAN MEDIAL WAbVOWEL SIGN SHAN AAeE",
    "fABOVEeFINAL YbSIGN SHAN TONE-2+dTONE-5+dCOUNCIL TONE-2+eEMPHATIC TONE",
    "bLETTER RUMAI PALAUNG FAbSIGN RUMAI PALAUNG TONE-5bSHAN DIGIT ZEROdONEdTWOdTHREEdFOURdFIVE",
    "dSIXdSEVENdEIGHTdNINEbSIGN KHAMTI TONE-1dTONE-3bVOWEL SIGN AITON AeAIbSYMBOL SHAN ONE",
    "dEXCLAMATIONaGEORGIAN CAPITAL LETTER ANdBANdGANdDONdENdVINdZENdTANdINdKANdLASdMANdNARdON",
    "dPARdZHARdRAEdSANdTARdUNdPHARdKHARdGHANdQARdSHINdCHINdCANdJILdCILdCHARdXANdJHANdHAEdHEdHIE",
    "dWEdHARdHOE.dYN.....dAEN..bLETTER ANcBANcGANcDONcENcVINcZENcTANcINcKANcLAScMANcNARcONcPAR",
    "cZHARcRAEcSANcTARcUNcPHARcKHARcGHANcQARcSHINcCHINcCANcJILcCILcCHARcXANcJHANcHAEcHEcHIEcWE",
    "cHARcHOEcFIcYNcELIFIcTURNED GANcAINbPARAGRAPH SEPARATORaMODIFIER LETTER GEORGIAN NAR",
    "aGEORGIAN LETTER AENcHARD SIGNcLABIAL:1aHANGUL CHOSEONG KIYEOKcSSANGKIYEOKcNIEUNcTIKEUT",
    "cSSANGTIKEUTcRIEULcMIEUMcPIEUPcSSANGPIEUPcSIOScSSANGSIOScIEUNGcCIEUCcSSANGCIEUCcCHIEUCH",
    "cKHIEUKHcTHIEUTHcPHIEUPHcHIEUHcNIEUN-KIYEOKcSSANGNIEUNcNIEUN-TIKEUTcNIEUN-PIEUP",
    "cTIKEUT-KIYEOKcRIEUL-NIEUNcSSANGRIEULcRIEUL-HIEUHcKAPYEOUNRIEULcMIEUM-PIEUPcKAPYEOUNMIEUM",
    "cPIEUP-KIYEOKcPIEUP-NIEUNcPIEUP-TIKEUTcPIEUP-SIOScPIEUP-SIOS-KIYEOKcPIEUP-SIOS-TIKEUT",
    "cPIEUP-SIOS-PIEUPcPIEUP-SSANGSIOScPIEUP-SIOS-CIEUCcPIEUP-CIEUCcPIEUP-CHIEUCHcPIEUP-THIEUTH",
    "cPIEUP-PHIEUPHcKAPYEOUNPIEUPcKAPYEOUNSSANGPIEUPcSIOS-KIYEOKcSIOS-NIEUNcSIOS-TIKEUT",
    "cSIOS-RIEULcSIOS-MIEUMcSIOS-PIEUPcSIOS-PIEUP-KIYEOKcSIOS-SSANGSIOScSIOS-IEUNGcSIOS-CIEUC",
    "cSIOS-CHIEUCHcSIOS-KHIEUKHcSIOS-THIEUTHcSIOS-PHIEUPHcSIOS-HIEUHcCHITUEUMSIOS",
    "cCHITUEUMSSANGSIOScCEONGCHIEUMSIOScCEONGCHIEUMSSANGSIOScPANSIOScIEUNG-KIYEOKcIEUNG-TIKEUT",
    "cIEUNG-MIEUMcIEUNG-PIEUPcIEUNG-SIOScIEUNG-PANSIOScSSANGIEUNGcIEUNG-CIEUCcIEUNG-CHIEUCH",
    "cIEUNG-THIEUTHcIEUNG-PHIEUPHcYESIEUNGcCIEUC-IEUNGcCHITUEUMCIEUCcCHITUEUMSSANGCIEUC",
    "cCEONGCHIEUMCIEUCcCEONGCHIEUMSSANGCIEUCcCHIEUCH-KHIEUKHcCHIEUCH-HIEUHcCHITUEUMCHIEUCH",
    "cCEONGCHIEUMCHIEUCHcPHIEUPH-PIEUPcKAPYEOUNPHIEUPHcSSANGHIEUHcYEORINHIEUHcKIYEOK-TIKEUT",
    "cNIEUN-SIOScNIEUN-CIEUCcNIEUN-HIEUHcTIKEUT-RIEULcFILLERbJUNGSEONG:1cAcAEcYAcYAEcEOcEcYEOcYE",
    "cOcWAcWAEcOEcYOcUcWEOcWEcWIcYUcEUcYIcIcA-OcA-UcYA-OcYA-YOcEO-OcEO-UcEO-EUcYEO-OcYEO-UcO-EO",
    "cO-EcO-YEcO-OcO-UcYO-YAcYO-YAEcYO-YEOcYO-OcYO-IcU-AcU-AEcU-EO-EUcU-YEcU-UcYU-AcYU-EOcYU-E",
    "cYU-YEOcYU-YEcYU-UcYU-IcEU-UcEU-EUcYI-UcI-AcI-YAcI-OcI-UcI-EUcI-ARAEAcARAEAcARAEA-EO",
    "cARAEA-UcARAEA-IcSSANGARAEAcA-EUcYA-UcYEO-YAcO-YAcO-YAEbJONGSEONG KIYEOKcSSANGKIYEOK",
    "cKIYEOK-SIOScNIEUNcNIEUN-CIEUCcNIEUN-HIEUHcTIKEUTcRIEULcRIEUL-KIYEOKcRIEUL-MIEUM",
    "cRIEUL-PIEUPcRIEUL-SIOScRIEUL-THIEUTHcRIEUL-PHIEUPHcRIEUL-HIEUHcMIEUMcPIEUPcPIEUP-SIOScSIOS",
    "cSSANGSIOScIEUNGcCIEUCcCHIEUCHcKHIEUKHcTHIEUTHcPHIEUPHcHIEUHcKIYEOK-RIEUL",
    "cKIYEOK-SIOS-KIYEOKcNIEUN-KIYEOKcNIEUN-TIKEUTcNIEUN-SIOScNIEUN-PANSIOScNIEUN-THIEUTH",
    "cTIKEUT-KIYEOKcTIKEUT-RIEULcRIEUL-KIYEOK-SIOScRIEUL-NIEUNcRIEUL-TIKEUTcRIEUL-TIKEUT-HIEUH",
    "cSSANGRIEULcRIEUL-MIEUM-KIYEOKcRIEUL-MIEUM-SIOScRIEUL-PIEUP-SIOScRIEUL-PIEUP-HIEUH",
    "cRIEUL-KAPYEOUNPIEUPcRIEUL-SSANGSIOScRIEUL-PANSIOScRIEUL-KHIEUKHcRIEUL-YEORINHIEUH",
    "cMIEUM-KIYEOKcMIEUM-RIEULcMIEUM-PIEUPcMIEUM-SIOScMIEUM-SSANGSIOScMIEUM-PANSIOS",
    "cMIEUM-CHIEUCHcMIEUM-HIEUHcKAPYEOUNMIEUMcPIEUP-RIEULcPIEUP-PHIEUPHcPIEUP-HIEUH",
    "cKAPYEOUNPIEUPcSIOS-KIYEOKcSIOS-TIKEUTcSIOS-RIEULcSIOS-PIEUPcPANSIOScIEUNG-KIYEOK",
    "cIEUNG-SSANGKIYEOKcSSANGIEUNGcIEUNG-KHIEUKHcYESIEUNGcYESIEUNG-SIOScYESIEUNG-PANSIOS",
    "cPHIEUPH-PIEUPcKAPYEOUNPHIEUPHcHIEUH-NIEUNcHIEUH-RIEULcHIEUH-MIEUMcHIEUH-PIEUPcYEORINHIEUH",
    "cKIYEOK-NIEUNcKIYEOK-PIEUPcKIYEOK-CHIEUCHcKIYEOK-KHIEUKHcKIYEOK-HIEUHcSSANGNIEUN",
    "aETHIOPIC SYLLABLE HAcHUcHIcHAAcHEEcHEcHOcHOAcLAcLUcLIcLAAcLEEcLEcLOcLWAcHHAcHHUcHHIcHHAA",
    "cHHEEcHHEcHHOcHHWAcMAcMUcMIcMAAcMEEcMEcMOcMWAcSZAcSZUcSZIcSZAAcSZEEcSZEcSZOcSZWAcRAcRUcRI",
    "cRAAcREEcREcROcRWAcSAcSUcSIcSAAcSEEcSEcSOcSWAcSHAcSHUcSHIcSHAAcSHEEcSHEcSHOcSHWAcQAcQUcQI",
    "cQAAcQEEcQEcQOcQOAcQWA.cQWIcQWAAcQWEEcQWE..cQHAcQHUcQHIcQHAAcQHEEcQHEcQHO.cQHWA.cQHWIcQHWAA",
    "cQHWEEcQHWE..cBAcBUcBIcBAAcBEEcBEcBOcBWAcVAcVUcVIcVAAcVEEcVEcVOcVWAcTAcTUcTIcTAAcTEEcTEcTO",
    "cTWAcCAcCUcCIcCAAcCEEcCEcCOcCWAcXAcXUcXIcXAAcXEEcXEcXOcXOAcXWA.cXWIcXWAAcXWEEcXWE..cNAcNU",
    "cNIcNAAcNEEcNEcNOcNWAcNYAcNYUcNYIcNYAAcNYEEcNYEcNYOcNYWAcGLOTTAL AdUdIdAAdEEdEdOdWAcKAcKU",
    "cKIcKAAcKEEcKEcKOcKOAcKWA.cKWIcKWAAcKWEEcKWE..cKXAcKXUcKXIcKXAAcKXEEcKXEcKXO.cKXWA.cKXWI",
    "cKXWAAcKXWEEcKXWE..cWAcWUcWIcWAAcWEEcWEcWOcWOAcPHARYNGEAL AdUdIdAAdEEdEdO.cZAcZUcZIcZAAcZEE",
    "cZEcZOcZWAcZHAcZHUcZHIcZHAAcZHEEcZHEcZHOcZHWAcYAcYUcYIcYAAcYEEcYEcYOcYOAcDAcDUcDIcDAAcDEE",
    "cDEcDOcDWAcDDAcDDUcDDIcDDAAcDDEEcDDEcDDOcDDWAcJAcJUcJIcJAAcJEEcJEcJOcJWAcGAcGUcGIcGAAcGEE",
    "cGEcGOcGOAcGWA.cGWIcGWAAcGWEEcGWE..cGGAcGGUcGGIcGGAAcGGEEcGGEcGGOcGGWAAcTHAcTHUcTHIcTHAA",
    "cTHEEcTHEcTHOcTHWAcCHAcCHUcCHIcCHAAcCHEEcCHEcCHOcCHWAcPHAcPHUcPHIcPHAAcPHEEcPHEcPHOcPHWA",
    "cTSAcTSUcTSIcTSAAcTSEEcTSEcTSOcTSWAcTZAcTZUcTZIcTZAAcTZEEcTZEcTZOcTZOAcFAcFUcFIcFAAcFEEcFE",
    "cFOcFWAcPAcPUcPIcPAAcPEEcPEcPOcPWAcRYAcMYAcFYA..bCOMBINING GEMINATION AND VOWEL LENGTH MARK",
    "c:3cGEMINATION:1bSECTION:1bWORDSPACEbFULL STOPbCOMMAbSEMICOLONbCOLONbPREFACE:1",
    "bQUESTION MARKbPARAGRAPH SEPARATORbDIGIT ONEcTWOcTHREEcFOURcFIVEcSIXcSEVENcEIGHTcNINE",
    "bNUMBER TENcTWENTYcTHIRTYcFORTYcFIFTYcSIXTYcSEVENTYcEIGHTYcNINETYcHUNDREDcTEN THOUSAND...",
    "bSYLLABLE SEBATBEIT MWAcMWIcMWEEcMWEcSEBATBEIT BWAcBWIcBWEEcBWEcSEBATBEIT FWAcFWIcFWEEcFWE",
    "cSEBATBEIT PWAcPWIcPWEEcPWEbTONAL MARK YIZETdDERETdRIKRIKdSHORT:1dDIFATdKENATdCHIRETdHIDET",
    "dDERET-HIDETdKURT......aCHEROKEE LETTER AcEcIcOcUcVcGAcKAcGEcGIcGOcGUcGVcHAcHEcHIcHOcHUcHV",
    "cLAcLEcLIcLOcLUcLVcMAcMEcMIcMOcMUcNAcHNAcNAHcNEcNIcNOcNUcNVcQUAcQUEcQUIcQUOcQUUcQUVcSAcScSE",
    "cSIcSOcSUcSVcDAcTAcDEcTEcDIcTIcDOcDUcDVcDLAcTLAcTLEcTLIcTLOcTLUcTLVcTSAcTSEcTSIcTSOcTSUcTSV",
    "cWAcWEcWIcWOcWUcWVcYAcYEcYIcYOcYUcYVcMV..bSMALL LETTER YEdYIdYOdYUdYVdMV..",
    "aCANADIAN SYLLABICS HYPHENcEcAAIcIcIIcOcOOcY-CREE:1cCARRIER EEdIcAcAAcWEcWEST-CREE:1cWI",
    "cWEST-CREE:1cWIIcWEST-CREE:1cWOcWEST-CREE:1cWOOcWEST-CREE:1cNASKAPI:1cWAcWEST-CREE:1cWAA",
    "cWEST-CREE:1cNASKAPI:1cAIcY-CREE WcGLOTTAL STOPcFINAL ACUTEdGRAVEdBOTTOM HALF RINGdTOP:2",
    "dRIGHT:2d:1dDOUBLE ACUTEeSHORT VERTICAL STROKESdMIDDLE DOTdSHORT HORIZONTAL STROKEdPLUS",
    "dDOWN TACKcENcINcONcANcPEcPAAIcPIcPIIcPOcPOOcY-CREE:1cCARRIER HEEdHIcPAcPAAcPWEcWEST-CREE:1",
    "cPWIcWEST-CREE:1cPWIIcWEST-CREE:1cPWOcWEST-CREE:1cPWOOcWEST-CREE:1cPWAcWEST-CREE:1cPWAA",
    "cWEST-CREE:1cY-CREE:1cPcWEST-CREE PcCARRIER HcTEcTAAIcTIcTIIcTOcTOOcY-CREE:1cCARRIER DEEdDI",
    "cTAcTAAcTWEcWEST-CREE:1cTWIcWEST-CREE:1cTWIIcWEST-CREE:1cTWOcWEST-CREE:1cTWOOcWEST-CREE:1",
    "cTWAcWEST-CREE:1cTWAAcWEST-CREE:1cNASKAPI:1cTcTTEcTTIcTTOcTTAcKEcKAAIcKIcKIIcKOcKOO",
    "cY-CREE:1cKAcKAAcKWEcWEST-CREE:1cKWIcWEST-CREE:1cKWIIcWEST-CREE:1cKWOcWEST-CREE:1cKWOO",
    "cWEST-CREE:1cKWAcWEST-CREE:1cKWAAcWEST-CREE:1cNASKAPI:1cKcKWcSOUTH-SLAVEY KEHdKIHdKOHdKAH",
    "cCEcCAAIcCIcCIIcCOcCOOcY-CREE:1cCAcCAAcCWEcWEST-CREE:1cCWIcWEST-CREE:1cCWIIcWEST-CREE:1cCWO",
    "cWEST-CREE:1cCWOOcWEST-CREE:1cCWAcWEST-CREE:1cCWAAcWEST-CREE:1cNASKAPI:1cCcSAYISI THcME",
    "cMAAIcMIcMIIcMOcMOOcY-CREE:1cMAcMAAcMWEcWEST-CREE:1cMWIcWEST-CREE:1cMWIIcWEST-CREE:1cMWO",
    "cWEST-CREE:1cMWOOcWEST-CREE:1cMWAcWEST-CREE:1cMWAAcWEST-CREE:1cNASKAPI:1cMcWEST-CREE McMH",
    "cATHAPASCAN McSAYISI McNEcNAAIcNIcNIIcNOcNOOcY-CREE:1cNAcNAAcNWEcWEST-CREE:1cNWA",
    "cWEST-CREE:1cNWAAcWEST-CREE:1cNASKAPI:1cNcCARRIER NGcNHcLEcLAAIcLIcLIIcLOcLOOcY-CREE:1cLA",
    "cLAAcLWEcWEST-CREE:1cLWIcWEST-CREE:1cLWIIcWEST-CREE:1cLWOcWEST-CREE:1cLWOOcWEST-CREE:1cLWA",
    "cWEST-CREE:1cLWAAcWEST-CREE:1cLcWEST-CREE LcMEDIAL LcSEcSAAIcSIcSIIcSOcSOOcY-CREE:1cSAcSAA",
    "cSWEcWEST-CREE:1cSWIcWEST-CREE:1cSWIIcWEST-CREE:1cSWOcWEST-CREE:1cSWOOcWEST-CREE:1cSWA",
    "cWEST-CREE:1cSWAAcWEST-CREE:1cNASKAPI:1cScATHAPASCAN ScSWcBLACKFOOT ScMOOSE-CREE SK",
    "cNASKAPI SKWdS-WdSPWAdSTWAdSKWAdSCWAcSHEcSHIcSHIIcSHOcSHOOcSHAcSHAAcSHWEcWEST-CREE:1cSHWI",
    "cWEST-CREE:1cSHWIIcWEST-CREE:1cSHWOcWEST-CREE:1cSHWOOcWEST-CREE:1cSHWAcWEST-CREE:1cSHWAA",
    "cWEST-CREE:1cSHcYEcYAAIcYIcYIIcYOcYOOcY-CREE:1cYAcYAAcYWEcWEST-CREE:1cYWIcWEST-CREE:1cYWII",
    "cWEST-CREE:1cYWOcWEST-CREE:1cYWOOcWEST-CREE:1cYWAcWEST-CREE:1cYWAAcWEST-CREE:1cNASKAPI:1cY",
    "cBIBLE-CREE YcWEST-CREE YcSAYISI YIcREcR-CREE:1cWEST-CREE LEcRAAIcRIcRIIcROcROO",
    "cWEST-CREE LOcRAcRAAcWEST-CREE LAcRWAAcWEST-CREE:1cRcWEST-CREE RcMEDIAL RcFEcFAAIcFIcFIIcFO",
    "cFOOcFAcFAAcFWAAcWEST-CREE:1cFcTHEcN-CREE:1cTHIcN-CREE:1cTHIIcN-CREE:1cTHOcTHOOcTHAcTHAA",
    "cTHWAAcWEST-CREE:1cTHcTTHEcTTHIcTTHOcTTHAcTTHcTYEcTYIcTYOcTYAcNUNAVIK HEdHIdHIIdHOdHOOdHA",
    "dHAAdHcNUNAVUT HcHKcQAAIcQIcQIIcQOcQOOcQAcQAAcQcTLHEcTLHIcTLHOcTLHAcWEST-CREE REdRIdROdRA",
    "cNGAAIcNGIcNGIIcNGOcNGOOcNGAcNGAAcNGcNNGcSAYISI SHEdSHIdSHOdSHAcWOODS-CREE THEdTHIdTHOdTHA",
    "dTHcLHIcLHIIcLHOcLHOOcLHAcLHAAcLHcTH-CREE THEdTHIdTHIIdTHOdTHOOdTHAdTHAAdTHcAIVILIK B",
    "cBLACKFOOT EdIdOdAdWEdWIdWOdWAdNEdNIdNOdNAdKEdKIdKOdKAcSAYISI HEdHIdHOdHAcCARRIER GHUdGHO",
    "dGHEdGHEEdGHIdGHAdRUdROdREdREEdRIdRAdWUdWOdWEdWEEdWIdWAdHWUdHWOdHWEdHWEEdHWIdHWAdTHUdTHO",
    "dTHEdTHEEdTHIdTHAdTTUdTTOdTTEdTTEEdTTIdTTAdPUdPOdPEdPEEdPIdPAdPdGUdGOdGEdGEEdGIdGAdKHUdKHO",
    "dKHEdKHEEdKHIdKHAdKKUdKKOdKKEdKKEEdKKIdKKAdKKdNUdNOdNEdNEEdNIdNAdMUdMOdMEdMEEdMIdMAdYUdYO",
    "dYEdYEEdYIdYAdJUcSAYISI:1cCARRIER JOdJEdJEEdJIcSAYISI:1cCARRIER JAdJJUdJJOdJJEdJJEEdJJIdJJA",
    "dLUdLOdLEdLEEdLIdLAdDLUdDLOdDLEdDLEEdDLIdDLAdLHUdLHOdLHEdLHEEdLHIdLHAdTLHUdTLHOdTLHEdTLHEE",
    "dTLHIdTLHAdTLUdTLOdTLEdTLEEdTLIdTLAdZUdZOdZEdZEEdZIdZAdZdINITIAL ZdDZUdDZOdDZEdDZEEdDZIdDZA",
    "dSUdSOdSEdSEEdSIdSAdSHUdSHOdSHEdSHEEdSHIdSHAdSHdTSUdTSOdTSEdTSEEdTSIdTSAdCHUdCHOdCHEdCHEE",
    "dCHIdCHAdTTSUdTTSOdTTSEdTTSEEdTTSIdTTSAcCHI SIGNcFULL STOPcQAIcNGAIcNNGIcNNGIIcNNGOcNNGOO",
    "cNNGAcNNGAAcWOODS-CREE THWEEdTHWIdTHWIIdTHWOdTHWOOdTHWAdTHWAAdFINAL THcBLACKFOOT W",
    "aOGHAM SPACE MARKbLETTER BEITHcLUIScFEARNcSAILcNIONcUATHcDAIRcTINNEcCOLLcCEIRTcMUINcGORT",
    "cNGEADALcSTRAIFcRUIScAILMcONNcURcEADHADHcIODHADHcEABHADHcORcUILLEANNcIFINcEAMHANCHOLLcPEITH",
    "bFEATHER MARKbREVERSED:2...aRUNIC LETTER FEHU FEOH FE FcVcURUZ UR UcYRcYcW",
    "cTHURISAZ THURS THORNcETHcANSUZ AcOS OcAC AcAESCcLONG-BRANCH-OSS OcSHORT-TWIG-OSS OcOcOEcON",
    "cRAIDO RAD REID RcKAUNAcCENcKAUN KcGcENGcGEBO GYFU GcGARcWUNJO WYNN WcHAGLAZ HcHAEGL H",
    "cLONG-BRANCH-HAGALL HcSHORT-TWIG-HAGALL HcNAUDIZ NYD NAUD NcSHORT-TWIG-NAUD NcDOTTED-N",
    "cISAZ IS ISS IcEcJERAN JcGERcLONG-BRANCH-AR AEcSHORT-TWIG-AR AcIWAZ EOHcPERTHO PEORTH P",
    "cALGIZ EOLHXcSOWILO ScSIGEL LONG-BRANCH-SOL ScSHORT-TWIG-SOL ScCcZcTIWAZ TIR TYR T",
    "cSHORT-TWIG-TYR TcDcBERKANAN BEORC BJARKAN BcSHORT-TWIG-BJARKAN BcDOTTED-PcOPEN-P",
    "cEHWAZ EH EcMANNAZ MAN McLONG-BRANCH-MADR McSHORT-TWIG-MADR McLAUKAZ LAGU LOGR LcDOTTED-L",
    "cINGWAZcINGcDAGAZ DAEG DcOTHALAN ETHEL OcEARcIORcCWEORTHcCALCcCEALCcSTANcLONG-BRANCH-YR",
    "cSHORT-TWIG-YRcICELANDIC-YRcQcXbSINGLE PUNCTUATIONbMULTIPLE:1bCROSS:1bARLAUG SYMBOL",
    "bTVIMADUR:1bBELGTHOR:1bLETTER KcSHcOOcFRANKS CASKET OSeISeEHeACeAESC.......",
    "aTAGALOG LETTER AcIcUcKAcGAcNGAcTAcDAcNAcPAcBAcMAcYAcRAcLAcWAcSAcHAbVOWEL SIGN IdU",
    "bSIGN VIRAMAcPAMUDPOD.........bLETTER ARCHAIC RAaHANUNOO LETTER AcIcUcKAcGAcNGAcTAcDAcNAcPA",
    "cBAcMAcYAcRAcLAcWAcSAcHAbVOWEL SIGN IdUbSIGN PAMUDPODaPHILIPPINE SINGLE PUNCTUATION",
    "bDOUBLE:1.........aBUHID LETTER AcIcUcKAcGAcNGAcTAcDAcNAcPAcBAcMAcYAcRAcLAcWAcSAcHA",
    "bVOWEL SIGN IdU............aTAGBANWA LETTER AcIcUcKAcGAcNGAcTAcDAcNAcPAcBAcMAcYA.cLAcWAcSA.",
    "bVOWEL SIGN IdU............aKHMER LETTER KAcKHAcKOcKHOcNGOcCAcCHAcCOcCHOcNYOcDAcTTHAcDO",
    "cTTHOcNNOcTAcTHAcTOcTHOcNOcBAcPHAcPOcPHOcMOcYOcROcLOcVOcSHAcSSOcSAcHAcLAcQA",
    "bINDEPENDENT VOWEL QAQdQAAdQIdQIIdQUdQUKdQUUdQUUVdRYdRYYdLYdLYYdQEdQAIdQOO TYPE ONEfTWOdQAU",
    "bVOWEL INHERENT AQdAAcSIGN:1dIdIIdYdYYdUdUUdUAdOEdYAdIEdEdAEdAIdOOdAUbSIGN NIKAHITcREAHMUK",
    "cYUUKALEAPINTUcMUUSIKATOANcTRIISAPcBANTOCcROBATcTOANDAKHIATcKAKABATcAHSDAcSAMYOK SANNYA",
    "cVIRIAMcCOENGcBATHAMASATcKHANcBARIYOOSANcCAMNUC PII KUUHcLEK TOOcBEYYALcPHNAEK MUANcKOOMUUT",
    "bCURRENCY SYMBOL RIELbSIGN AVAKRAHASANYAcATTHACAN..bDIGIT ZEROcONEcTWOcTHREEcFOURcFIVEcSIX",
    "cSEVENcEIGHTcNINE......bSYMBOL LEK ATTAK SONeMUOYePIIeBEIeBUONePRAMePRAM-MUOYePRAM-PII",
    "ePRAM-BEIePRAM-BUON......aMONGOLIAN BIRGAbELLIPSISbCOMMAbFULL STOPbCOLONbFOUR DOTS",
    "bTODO SOFT HYPHENbSIBE SYLLABLE BOUNDARY MARKERbMANCHU COMMAcFULL STOPbNIRUGU",
    "bFREE VARIATION SELECTOR ONEeTWOeTHREEbVOWEL SEPARATORbFREE VARIATION SELECTOR FOUR",
    "bDIGIT ZEROcONEcTWOcTHREEcFOURcFIVEcSIXcSEVENcEIGHTcNINE......bLETTER AcEcIcOcUcOEcUEcEEcNA",
    "cANGcBAcPAcQAcGAcMAcLAcSAcSHAcTAcDAcCHAcJAcYAcRAcWAcFAcKAcKHAcTSAcZAcHAAcZRAcLHAcZHIcCHI",
    "cTODO LONG VOWEL SIGNdEdIdOdUdOEdUEdANGdBAdPAdQAdGAdMAdTAdDAdCHAdJAdTSAdYAdWAdKAdGAAdHAA",
    "dJIAdNIAdDZAcSIBE EdIdIYdUEdUdANGdKAdGAdHAdPAdSHAdTAdDAdJAdFAdGAAdHAAdTSAdZAdRAAdCHAdZHA",
    "cMANCHU IdKAdRAdFAdZHAcCHA WITH TWO DOTS.......cALI GALI ANUSVARA ONEeVISARGA:1eDAMARU",
    "eUBADAMAeINVERTED:1eBALUDAeTHREE:1eAeIeKAeNGAeCAeTTAeTTHAeDDAeNNAeTAeDAePAePHAeSSAeZHAeZA",
    "eAHcTODO ALI GALI TAfZHAcMANCHU ALI GALI GHAfNGAfCAfJHAfTTAfDDHAfTAfDHAfSSAfCYAfZHAfZA",
    "cALI GALI HALF UfYAcMANCHU ALI GALI BHAcALI GALI DAGALGAcMANCHU ALI GALI LHA.....",
    "aCANADIAN SYLLABICS OYcAYcAAYcWAYcPOYcPAYcPWOYcTAYcKAYcKWAYcMAYcNOYcNAYcLAYcSOYcSAYcSHOY",
    "cSHAYcSHWOYcYOYcYAYcRAYcNWIcOJIBWAY:1cNWIIcOJIBWAY:1cNWOcOJIBWAY:1cNWOOcOJIBWAY:1cRWEEcRWI",
    "cRWIIcRWOcRWOOcRWAcOJIBWAY PdTdKdCdMdNdSdSHcEASTERN WcWESTERN WcFINAL SMALL RINGdRAISED DOT",
    "cR-CREE RWEcWEST-CREE LOOdLAAcTHWEcTHWAcTTHWEcTTHOOcTTHAAcTLHWEcTLHOOcSAYISI SHWEdSHOOdHOO",
    "cCARRIER GWUdDENE GEEdGAAdGWAcSAYISI JUUcCARRIER JWAcBEAVER DENE LeRcCARRIER DENTAL S......",
    "....aLIMBU VOWEL-CARRIER LETTERbLETTER KAcKHAcGAcGHAcNGAcCAcCHAcJAcJHAcYANcTAcTHAcDAcDHAcNA",
    "cPAcPHAcBAcBHAcMAcYAcRAcLAcWAcSHAcSSAcSAcHAcGYANcTRA.bVOWEL SIGN AdIdUdEEdAIdOOdAUdEdO",
    "bSUBJOINED LETTER YAdRAdWA....bSMALL LETTER KAdNGAdANUSVARAdTAdNAdPAdMAdRAdLA",
    "bSIGN MUKPHRENGcKEMPHRENGcSA-I....cLOO...bEXCLAMATION MARKbQUESTION:1bDIGIT ZEROcONEcTWO",
    "cTHREEcFOURcFIVEcSIXcSEVENcEIGHTcNINEaTAI LE LETTER KAdXAdNGAdTSAdSAdYAdTAdTHAdLAdPAdPHAdMA",
    "dFAdVAdHAdQAdKHAdTSHAdNAdAdIdEEdEHdUdOOdOdUEdEdAUEdAI..dTONE-2++++...........",
    "aNEW TAI LUE LETTER HIGH QAeLOW:1eHIGH KAfXAfNGAeLOW KAfXAfNGAeHIGH TSAfSAfYAeLOW TSAfSAfYA",
    "eHIGH TAfTHAfNAeLOW TAfTHAfNAeHIGH PAfPHAfMAeLOW PAfPHAfMAeHIGH FAfVAfLAeLOW FAfVAfLA",
    "eHIGH HAfDAfBAeLOW HAfDAfBAeHIGH KVAfXVAeLOW KVAfXVAeHIGH SUAeLOW:1....",
    "dVOWEL SIGN VOWEL SHORTENERfAAfIIfUfUUfEfAEfOfOAfUEfAYfAAYfUYfOYfOAYfUEYfIYdLETTER FINAL V",
    "fNGfNfMfKfDfBdTONE MARK-1+......dDIGIT ZEROeONEeTWOeTHREEeFOUReFIVEeSIXeSEVENeEIGHTeNINE",
    "dTHAM DIGIT ONE...dSIGN LAEeLAEVaKHMER SYMBOL PATHAMASATcMUOY KOETcPII:1cBEI:1cBUON:1",
    "cPRAM:1cPRAM-MUOY:1cPRAM-PII:1cPRAM-BEI:1cPRAM-BUON:1cDAP:1cDAP-MUOY:1cDAP-PII:1cDAP-BEI:1",
    "cDAP-BUON:1cDAP-PRAM:1cTUTEYASATcMUOY ROCcPII:1cBEI:1cBUON:1cPRAM:1cPRAM-MUOY:1cPRAM-PII:1",
    "cPRAM-BEI:1cPRAM-BUON:1cDAP:1cDAP-MUOY:1cDAP-PII:1cDAP-BEI:1cDAP-BUON:1cDAP-PRAM:1",
    "aBUGINESE LETTER KAcGAcNGAcNGKAcPAcBAcMAcMPAcTAcDAcNAcNRAcCAcJAcNYAcNYCAcYAcRAcLAcVAcSAcA",
    "cHAbVOWEL SIGN IdUdEdOdAE..bPALLAWAbEND OF SECTIONaTAI THAM LETTER HIGH KAeKHAeKXAdLOW KA",
    "eKXAeKHAdNGAdHIGH CAeCHAdLOW CAeSAeCHAdNYAdRATAdHIGH RATHAdDAdLOW RATHAdRANAdHIGH TAeTHA",
    "dLOW TAeTHAdNAdBAdHIGH PAePHAeFAdLOW PAeFAePHAdMAdLOW YAdHIGH:1dRAdRUEdLAdLUEdWAdHIGH SHA",
    "eSSAeSAeHAdLLAdAdLOW HAdIdIIdUdUUdEEdOOdLAEdGREAT SAcCONSONANT SIGN MEDIAL RAfLA",
    "eLA TANG LAIcSIGN MAI KANG:1cCONSONANT SIGN FINAL NGAeLOW PAeHIGH RATHA OR:2eMAeBAeSA.",
    "cSIGN SAKOTcVOWEL SIGN AeMAI SATeAAeTALL:1eIeIIeUEeUUEeUeUUeOeOA BELOWeOYeEeAEeOOeAIeTHAM:1",
    "eOA ABOVEcSIGN MAI KANGdTONE-1+dKHUEN TONE-3++dRA HAAMdMAI SAMdKHUEN-LUE KARAN..",
    "cCOMBINING CRYPTOGRAMMIC DOTcHORA DIGIT ZEROeONEeTWOeTHREEeFOUReFIVEeSIXeSEVENeEIGHTeNINE..",
    "....cTHAM DIGIT ZEROeONEeTWOeTHREEeFOUReFIVEeSIXeSEVENeEIGHTeNINE......cSIGN WIANG",
    "dWIANGWAAKdSAWANdKEOWdHOYdDOKMAIdREVERSED ROTATED RANAdMAI YAMOKdKAANdKAANKUUdSATKAAN",
    "dSATKAANKUUdHANGdCAANG..aCOMBINING DOUBLED CIRCUMFLEX ACCENTbDIAERESIS-RINGbINFINITY",
    "bDOWNWARDS ARROWbTRIPLE DOTbX-X BELOWbWIGGLY LINE:1bOPEN MARK:1bDOUBLE:3",
    "bLIGHT CENTRALIZATION STROKE:1bSTRONG:3bPARENTHESES ABOVEbDOUBLE:2bPARENTHESES BELOW",
    "cOVERLAYbLATIN SMALL LETTER W BELOWeTURNED:2bLEFT PARENTHESIS ABOVE LEFT",
    "bRIGHT PARENTHESIS ABOVE RIGHTbLEFT PARENTHESIS BELOW LEFTbRIGHT PARENTHESIS BELOW RIGHT",
    "bSQUARE BRACKETS ABOVEbNUMBER SIGN:1bINVERTED DOUBLE ARCH:1bPLUS SIGN:1bDOUBLE:3eBELOW",
    "bTRIPLE ACUTE ACCENTbLATIN SMALL LETTER INSULAR GfRfT"]),
  (6912, [
    "aBALINESE SIGN ULU RICEMdCANDRAcCECEKcSURANGcBISAHbLETTER AKARAdTEDUNGcIKARAdTEDUNGcUKARA",
    "dTEDUNGcRA REPAeTEDUNGcLA LENGAeTEDUNGcEKARAcAIKARAcOKARAdTEDUNGcKAdMAHAPRANAcGAdGORAcNGA",
    "cCAdLACAcJAdJERAcNYAcTA LATIKdMURDA MAHAPRANAcDA MURDA ALPAPRANAeMAHAPRANAcNA RAMBATcTA",
    "dTAWAcDAdMADUcNAcPAdKAPALcBAdKEMBANGcMAcYAcRAcLAcWAcSA SAGAdSAPAdcHAbSIGN REREKAN",
    "bVOWEL SIGN TEDUNGdULUeSARIdSUKUeILUTdRA REPAfTEDUNGdLA LENGAfTEDUNGdTALINGeREPAeTEDUNG",
    "eREPA:1dPEPETeTEDUNGbADEG ADEGbLETTER KAF SASAKcKHOT:1cTZIR:1cEF:1cVE:1cZAL:1cASYURA:1",
    "cARCHAIC JNYA...bDIGIT ZEROcONEcTWOcTHREEcFOURcFIVEcSIXcSEVENcEIGHTcNINEbPANTIbPAMADAbWINDU",
    "bCARIK PAMUNGKAHcSIKIcPARERENbPAMENENGbMUSICAL SYMBOL DONGdDENGdDUNGdDANGeSURANGdDINGdDAENG",
    "dDEUNGdDAINGdDANG GEDEdCOMBINING TEGEHeENDEPeKEMPULeKEMPLIeJEGOGANeKEMPUL WITH:1eKEMPLI:2",
    "eBENDEeGONGdRIGHT-HAND OPEN DUGfDAGeCLOSED TUKfTAKdLEFT-HAND OPEN PANGfPUNGeCLOSED PLAK",
    "fPLUKeOPEN PINGbPANTI LANTANGbPAMADA:1.aSUNDANESE SIGN PANYECEKcPANGLAYARcPANGWISAD",
    "bLETTER AcIcUcAEcOcEcEUcKAcQAcGAcNGAcCAcJAcZAcNYAcTAcDAcNAcPAcFAcVAcBAcMAcYAcRAcLAcWAcSAcXA",
    "cHAbCONSONANT SIGN PAMINGKALdPANYAKRAdPANYIKUbVOWEL SIGN PANGHULUdPANYUKUdPANAELAENG",
    "dPANOLONGdPAMEPETdPANEULEUNGbSIGN PAMAAEHcVIRAMAbCONSONANT SIGN PASANGAN MAeWAbLETTER KHA",
    "cSYAbDIGIT ZEROcONEcTWOcTHREEcFOURcFIVEcSIXcSEVENcEIGHTcNINEbAVAGRAHAbLETTER REUcLEUcBHA",
    "cFINAL KdMaBATAK LETTER AcSIMALUNGUN AcHAcSIMALUNGUN:1cMANDAILING:1cBAcKARO:1cPA",
    "cSIMALUNGUN:1cNAcMANDAILING:1cWAcSIMALUNGUN:1cPAKPAK:1cGAcSIMALUNGUN:1cJAcDAcRA",
    "cSIMALUNGUN:1cMAcSIMALUNGUN:1cSOUTHERN TAcNORTHERN:1cSAcSIMALUNGUN:1cMANDAILING:1cYA",
    "cSIMALUNGUN:1cNGAcLAcSIMALUNGUN:1cNYAcCAcNDAcMBAcIcUbSIGN TOMPIbVOWEL SIGN EdPAKPAK EdEEdI",
    "dKARO IdOdKARO OdUeFOR SIMALUNGUN SAbCONSONANT SIGN NGdHbPANGOLATbPANONGONAN........",
    "bSYMBOL BINDU NA METEKdPINARBORASdJUDULdPANGOLATaLEPCHA LETTER KAcKLAcKHAcGAcGLAcNGAcCAcCHA",
    "cJAcNYAcTAcTHAcDAcNAcPAcPLAcPHAcFAcFLAcBAcBLAcMAcMLAcTSAcTSHAcDZAcYAcRAcLAcHAcHLAcVAcSAcSHA",
    "cWAcAbSUBJOINED LETTER YAdRAbVOWEL SIGN AAdIdOdOOdUdUUdEbCONSONANT SIGN KdMdLdNdPdRdT",
    "dNYIN-DOdKANGbSIGN RANcNUKTA...bPUNCTUATION TA-ROLcNYET THYOOM:1cCER-WAcTSHOOK:1d",
    "bDIGIT ZEROcONEcTWOcTHREEcFOURcFIVEcSIXcSEVENcEIGHTcNINE...bLETTER TTAcTTHAcDDA",
    "aOL CHIKI DIGIT ZEROdONEdTWOdTHREEdFOURdFIVEdSIXdSEVENdEIGHTdNINEcLETTER LAdATdAGdANGdAL",
    "dLAAdAAKdAAJdAAMdAAWdLIdISdIHdINYdIRdLUdUCdUDdUNNdUYdLEdEPdEDDdENdERRdLOdOTTdOBdOVdOH",
    "cMU TTUDDAGcGAAHLAA TTUDDAAGcMU-GAAHLAA:1cRELAAcPHAARKAAcAHADcPUNCTUATION MUCAADdDOUBLE:1",
    "aCYRILLIC SMALL LETTER ROUNDED VEdLONG-LEGGED DEdNARROW OdWIDE ESdTALL TEdTHREE-LEGGED:1",
    "dTALL HARD SIGNeYATdUNBLENDED UK.......aGEORGIAN MTAVRULI CAPITAL LETTER ANeBANeGANeDONeEN",
    "eVINeZENeTANeINeKANeLASeMANeNAReONePAReZHAReRAEeSANeTAReUNePHAReKHAReGHANeQAReSHINeCHINeCAN",
    "eJILeCILeCHAReXANeJHANeHAEeHEeHIEeWEeHAReHOEeFIeYNeELIFIeTURNED GANeAIN..eAENeHARD SIGN",
    "eLABIAL:1aSUNDANESE PUNCTUATION BINDU SURYAdPANGLONGdPURNAMAdCAKRAdLEU SATANGAdKA:1dDA:1",
    "dBA:1........aVEDIC TONE KARSHANAcSHARAcPRENKHAbSIGN NIHSHVASAcYAJURVEDIC MIDLINE SVARITA",
    "bTONE YAJURVEDIC AGGRAVATED INDEPENDENT:1d:2dKATHAKA:2cCANDRA BELOW",
    "cYAJURVEDIC KATHAKA INDEPENDENT SVARITA SCHROEDERcDOUBLE SVARITAcTRIPLE:1cKATHAKA ANUDATTA",
    "cDOT BELOWcTWO DOTS:1cTHREE:2cRIGVEDIC KASHMIRI INDEPENDENT SVARITAcATHARVAVEDIC:2",
    "bSIGN VISARGA:1dUDATTAcREVERSED:2cVISARGA ANUDATTAcREVERSED:2cVISARGA UDATTA WITH TAIL",
    "dANUDATTA:2cANUSVARA ANTARGOMUKHAdBAHIRGOMUKHAdVAMAGOMUKHAeWITH TAILcTIRYAK",
    "cHEXIFORM LONG ANUSVARAc:2cRTHANG:2cANUSVARA UBHAYATO MUKHAcARDHAVISARGAcROTATED:1",
    "bTONE CANDRA ABOVEbSIGN JIHVAMULIYAcUPADHMANIYAcATIKRAMAbTONE RING ABOVEcDOUBLE:2",
    "bSIGN DOUBLE ANUSVARA ANTARGOMUKHA.....aLATIN LETTER SMALL CAPITAL AeAE",
    "bSMALL LETTER TURNED:1bLETTER SMALL CAPITAL BARRED BeCeDeETHeEbSMALL LETTER TURNED OPEN EeI",
    "bLETTER SMALL CAPITAL JeKeL WITH STROKEeMeREVERSED NeOeOPEN ObSMALL LETTER SIDEWAYS O",
    "eOPEN OeO WITH STROKEdTURNED OEbLETTER SMALL CAPITAL OUbSMALL LETTER TOP HALF OdBOTTOM:2",
    "bLETTER SMALL CAPITAL PeREVERSED ReTURNED ReTeUbSMALL LETTER SIDEWAYS UeDIAERESIZED U",
    "eTURNED MbLETTER SMALL CAPITAL VeWeZeEZHcVOICED LARYNGEAL SPIRANTcAIN",
    "aGREEK LETTER SMALL CAPITAL GAMMAeLAMDAePIeRHOePSIaCYRILLIC LETTER SMALL CAPITAL EL",
    "aMODIFIER LETTER CAPITAL AdAEdBdBARRED BdDdEdREVERSED EdGdHdIdJdKdLdMdNdREVERSED NdOdOUdPdR",
    "dTdUdWcSMALL AdTURNED AdALPHAdTURNED AEdBdDdEdSCHWAdOPEN EdTURNED:2dGdTURNED IdKdMdENGdO",
    "dOPEN OdTOP HALF OdBOTTOM:2dPdTdUdSIDEWAYS UdTURNED MdVdAINdBETAdGREEK GAMMAdDELTA",
    "dGREEK PHIdCHIaLATIN SUBSCRIPT SMALL LETTER IeReUeVaGREEK SUBSCRIPT SMALL LETTER BETAeGAMMA",
    "eRHOePHIeCHIaLATIN SMALL LETTER UEdB WITH MIDDLE TILDEdD:3dF:3dM:3dN:3dP:3dR:3",
    "fFISHHOOK AND:2dS WITH:2dT:3dZ:3dTURNED GaMODIFIER LETTER CYRILLIC EN",
    "aLATIN SMALL LETTER INSULAR GdTH WITH STRIKETHROUGHcCAPITAL LETTER I WITH STROKE",
    "cLETTER IOTA:2dP:2cCAPITAL LETTER U:2cLETTER UPSILON:2dB WITH PALATAL HOOKdD:3dF:3dG:3dK:3",
    "dL:3dM:3dN:3dP:3dR:3dS:3dESH:3dV:3dX:3dZ:3dA WITH RETROFLEX:1dALPHA:3dD WITH HOOK AND TAIL",
    "dE WITH RETROFLEX HOOKdOPEN:4dREVERSED:5dSCHWA:3dI:3dOPEN O:3dESH:3dU:3dEZH:3",
    "aMODIFIER LETTER SMALL TURNED ALPHAdCeWITH CURLdETHdREVERSED OPEN EdFdDOTLESS J WITH STROKE",
    "dSCRIPT GdTURNED HdI WITH STROKEdIOTAdCAPITAL IfWITH STROKEdJ WITH CROSSED-TAIL",
    "dL WITH RETROFLEX HOOKfPALATAL:1dCAPITAL LdM WITH HOOKdTURNED M WITH LONG LEG",
    "dN WITH LEFT HOOKfRETROFLEX:1dCAPITAL NdBARRED OdPHIdS WITH HOOKdESHdT WITH PALATAL HOOK",
    "dU BARdUPSILONdCAPITAL UdV WITH HOOKdTURNED VdZeWITH RETROFLEX HOOKfCURLdEZHdTHETA",
    "aCOMBINING DOTTED GRAVE ACCENTcACUTE:1bSNAKE BELOWbSUSPENSION MARKbMACRON-ACUTE",
    "bGRAVE-MACRONbMACRON-GRAVEbACUTE-MACRONbGRAVE-ACUTE-GRAVEbACUTE-GRAVE-ACUTE",
    "bLATIN SMALL LETTER R BELOWbBREVE-MACRONbMACRON-BREVEbDOUBLE CIRCUMFLEX ABOVEbOGONEK:1",
    "bZIGZAG BELOWbIS:1bUR ABOVEbUS:1bLATIN SMALL LETTER FLATTENED OPEN A:1eAEeAOeAVeC CEDILLA",
    "eINSULAR DeETHeGcLETTER SMALL CAPITAL GcSMALL LETTER KeLcLETTER SMALL CAPITAL LfM",
    "cSMALL LETTER NcLETTER SMALL CAPITAL NfRcSMALL LETTER R ROTUNDAeSeLONG SeZeALPHAeBeBETA",
    "eSCHWAeFeL WITH DOUBLE MIDDLE TILDEeO WITH LIGHT CENTRALIZATION STROKEePeESH",
    "eU WITH LIGHT CENTRALIZATION STROKEeWeA WITH DIAERESISeO:2eU:2bUP TACK ABOVE",
    "bKAVYKA ABOVE RIGHTdLEFTbDOT:2bWIDE INVERTED BRIDGE BELOWbDOT BELOW LEFTbDELETION MARK",
    "bDOUBLE INVERTED BREVE BELOWbALMOST EQUAL TO:1bLEFT ARROWHEAD ABOVE",
    "bRIGHT ARROWHEAD AND DOWN ARROWHEAD BELOWaLATIN CAPITAL LETTER A WITH RING:1bSMALL:5",
    "bCAPITAL LETTER B WITH DOT ABOVEbSMALL:5bCAPITAL LETTER B WITH DOT BELOWbSMALL:5",
    "bCAPITAL LETTER B WITH LINE:1bSMALL:5bCAPITAL LETTER C WITH CEDILLA AND ACUTEbSMALL:6",
    "bCAPITAL LETTER D WITH DOT ABOVEbSMALL:5bCAPITAL LETTER D WITH DOT BELOWbSMALL:5",
    "bCAPITAL LETTER D WITH LINE:1bSMALL:5bCAPITAL LETTER D WITH CEDILLAbSMALL:4",
    "bCAPITAL LETTER D WITH CIRCUMFLEX BELOWbSMALL:5bCAPITAL LETTER E WITH MACRON AND GRAVE",
    "bSMALL:6bCAPITAL LETTER E WITH MACRON AND ACUTEbSMALL:6",
    "bCAPITAL LETTER E WITH CIRCUMFLEX BELOWbSMALL:5bCAPITAL LETTER E WITH TILDE:1bSMALL:5",
    "bCAPITAL LETTER E WITH CEDILLA AND BREVEbSMALL:6bCAPITAL LETTER F WITH DOT ABOVEbSMALL:5",
    "bCAPITAL LETTER G WITH MACRONbSMALL:4bCAPITAL LETTER H WITH DOT ABOVEbSMALL:5",
    "bCAPITAL LETTER H WITH DOT BELOWbSMALL:5bCAPITAL LETTER H WITH DIAERESISbSMALL:4",
    "bCAPITAL LETTER H WITH CEDILLAbSMALL:4bCAPITAL LETTER H WITH BREVE BELOWbSMALL:5",
    "bCAPITAL LETTER I WITH TILDE:1bSMALL:5bCAPITAL LETTER I WITH DIAERESIS AND ACUTEbSMALL:6",
    "bCAPITAL LETTER K WITH:1bSMALL:4bCAPITAL LETTER K WITH DOT BELOWbSMALL:5",
    "bCAPITAL LETTER K WITH LINE:1bSMALL:5bCAPITAL LETTER L WITH DOT:1bSMALL:5",
    "bCAPITAL LETTER L WITH DOT BELOW AND MACRONbSMALL:7bCAPITAL LETTER L WITH LINE BELOW",
    "bSMALL:5bCAPITAL LETTER L WITH CIRCUMFLEX:1bSMALL:5bCAPITAL LETTER M WITH ACUTEbSMALL:4",
    "bCAPITAL LETTER M WITH DOT ABOVEbSMALL:5bCAPITAL LETTER M WITH DOT BELOWbSMALL:5",
    "bCAPITAL LETTER N WITH DOT ABOVEbSMALL:5bCAPITAL LETTER N WITH DOT BELOWbSMALL:5",
    "bCAPITAL LETTER N WITH LINE:1bSMALL:5bCAPITAL LETTER N WITH CIRCUMFLEX:1bSMALL:5",
    "bCAPITAL LETTER O WITH TILDE AND ACUTEbSMALL:6bCAPITAL LETTER O WITH TILDE AND DIAERESIS",
    "bSMALL:6bCAPITAL LETTER O WITH MACRON AND GRAVEbSMALL:6",
    "bCAPITAL LETTER O WITH MACRON AND ACUTEbSMALL:6bCAPITAL LETTER P WITH:1bSMALL:4",
    "bCAPITAL LETTER P WITH DOT ABOVEbSMALL:5bCAPITAL LETTER R:3bSMALL:5",
    "bCAPITAL LETTER R WITH DOT BELOWbSMALL:5bCAPITAL LETTER R WITH DOT BELOW AND MACRONbSMALL:7",
    "bCAPITAL LETTER R WITH LINE BELOWbSMALL:5bCAPITAL LETTER S WITH DOT ABOVEbSMALL:5",
    "bCAPITAL LETTER S WITH DOT BELOWbSMALL:5bCAPITAL LETTER S WITH ACUTE AND DOT ABOVEbSMALL:7",
    "bCAPITAL LETTER S WITH CARON:3bSMALL:7bCAPITAL LETTER S WITH DOT BELOW:3bSMALL:8",
    "bCAPITAL LETTER T WITH:2bSMALL:5bCAPITAL LETTER T WITH DOT BELOWbSMALL:5",
    "bCAPITAL LETTER T WITH LINE:1bSMALL:5bCAPITAL LETTER T WITH CIRCUMFLEX:1bSMALL:5",
    "bCAPITAL LETTER U WITH DIAERESIS:1bSMALL:5bCAPITAL LETTER U WITH TILDE:1bSMALL:5",
    "bCAPITAL LETTER U WITH CIRCUMFLEX:1bSMALL:5bCAPITAL LETTER U WITH TILDE AND ACUTEbSMALL:6",
    "bCAPITAL LETTER U WITH MACRON AND DIAERESISbSMALL:6bCAPITAL LETTER V WITH TILDEbSMALL:4",
    "bCAPITAL LETTER V WITH DOT BELOWbSMALL:5bCAPITAL LETTER W WITH GRAVEbSMALL:4",
    "bCAPITAL LETTER W WITH ACUTEbSMALL:4bCAPITAL LETTER W WITH DIAERESISbSMALL:4",
    "bCAPITAL LETTER W WITH DOT ABOVEbSMALL:5bCAPITAL LETTER W WITH DOT BELOWbSMALL:5",
    "bCAPITAL LETTER X WITH DOT ABOVEbSMALL:5bCAPITAL LETTER X WITH DIAERESISbSMALL:4",
    "bCAPITAL LETTER Y WITH DOT ABOVEbSMALL:5bCAPITAL LETTER Z WITH CIRCUMFLEXbSMALL:4",
    "bCAPITAL LETTER Z WITH DOT BELOWbSMALL:5bCAPITAL LETTER Z WITH LINE:1bSMALL:5dH:3",
    "dT WITH DIAERESISdW WITH RING ABOVEdY:3dA WITH RIGHT HALF RINGdLONG S WITH DOT ABOVE",
    "gDIAGONAL STROKEgHIGH:1bCAPITAL LETTER SHARP SbSMALL LETTER DELTA",
    "bCAPITAL LETTER A WITH DOT BELOWbSMALL:5bCAPITAL LETTER A WITH HOOK ABOVEbSMALL:5",
    "bCAPITAL LETTER A WITH CIRCUMFLEX AND ACUTEbSMALL:6",
    "bCAPITAL LETTER A WITH CIRCUMFLEX AND GRAVEbSMALL:6",
    "bCAPITAL LETTER A WITH CIRCUMFLEX AND HOOK ABOVEbSMALL:7",
    "bCAPITAL LETTER A WITH CIRCUMFLEX AND TILDEbSMALL:6",
    "bCAPITAL LETTER A WITH CIRCUMFLEX AND DOT BELOWbSMALL:7",
    "bCAPITAL LETTER A WITH BREVE AND ACUTEbSMALL:6bCAPITAL LETTER A WITH BREVE AND GRAVE",
    "bSMALL:6bCAPITAL LETTER A WITH BREVE AND HOOK ABOVEbSMALL:7",
    "bCAPITAL LETTER A WITH BREVE AND TILDEbSMALL:6bCAPITAL LETTER A WITH BREVE AND DOT BELOW",
    "bSMALL:7bCAPITAL LETTER E WITH:2bSMALL:5bCAPITAL LETTER E WITH HOOK ABOVEbSMALL:5",
    "bCAPITAL LETTER E WITH TILDEbSMALL:4bCAPITAL LETTER E WITH CIRCUMFLEX AND ACUTEbSMALL:6",
    "bCAPITAL LETTER E WITH CIRCUMFLEX AND GRAVEbSMALL:6",
    "bCAPITAL LETTER E WITH CIRCUMFLEX AND HOOK ABOVEbSMALL:7",
    "bCAPITAL LETTER E WITH CIRCUMFLEX AND TILDEbSMALL:6",
    "bCAPITAL LETTER E WITH CIRCUMFLEX AND DOT BELOWbSMALL:7bCAPITAL LETTER I WITH HOOK ABOVE",
    "bSMALL:5bCAPITAL LETTER I WITH DOT BELOWbSMALL:5bCAPITAL LETTER O:3bSMALL:5",
    "bCAPITAL LETTER O WITH HOOK ABOVEbSMALL:5bCAPITAL LETTER O WITH CIRCUMFLEX AND ACUTE",
    "bSMALL:6bCAPITAL LETTER O WITH CIRCUMFLEX AND GRAVEbSMALL:6",
    "bCAPITAL LETTER O WITH CIRCUMFLEX AND HOOK ABOVEbSMALL:7",
    "bCAPITAL LETTER O WITH CIRCUMFLEX AND TILDEbSMALL:6",
    "bCAPITAL LETTER O WITH CIRCUMFLEX AND DOT BELOWbSMALL:7",
    "bCAPITAL LETTER O WITH HORN AND ACUTEbSMALL:6bCAPITAL LETTER O WITH HORN AND GRAVEbSMALL:6",
    "bCAPITAL LETTER O WITH HORN AND HOOK ABOVEbSMALL:7bCAPITAL LETTER O WITH HORN AND TILDE",
    "bSMALL:6bCAPITAL LETTER O WITH HORN AND DOT BELOWbSMALL:7bCAPITAL LETTER U WITH:2bSMALL:5",
    "bCAPITAL LETTER U WITH HOOK ABOVEbSMALL:5bCAPITAL LETTER U WITH HORN AND ACUTEbSMALL:6",
    "bCAPITAL LETTER U WITH HORN AND GRAVEbSMALL:6bCAPITAL LETTER U WITH HORN AND HOOK ABOVE",
    "bSMALL:7bCAPITAL LETTER U WITH HORN AND TILDEbSMALL:6",
    "bCAPITAL LETTER U WITH HORN AND DOT BELOWbSMALL:7bCAPITAL LETTER Y WITH GRAVEbSMALL:4",
    "bCAPITAL LETTER Y WITH DOT BELOWbSMALL:5bCAPITAL LETTER Y WITH HOOK ABOVEbSMALL:5",
    "bCAPITAL LETTER Y WITH TILDEbSMALL:4bCAPITAL LETTER MIDDLE-WELSH LLbSMALL:3",
    "bCAPITAL LETTER MIDDLE-WELSH VbSMALL:3bCAPITAL LETTER Y WITH LOOPbSMALL:4",
    "aGREEK SMALL LETTER ALPHA WITH PSILIfDASIAfPSILI AND VARIAfDASIA:2fPSILI AND OXIAfDASIA:2",
    "fPSILI AND PERISPOMENIfDASIA:2bCAPITAL LETTER ALPHA WITH PSILIfDASIAfPSILI AND VARIA",
    "fDASIA:2fPSILI AND OXIAfDASIA:2fPSILI AND PERISPOMENIfDASIA:2",
    "bSMALL LETTER EPSILON WITH PSILIfDASIAfPSILI AND VARIAfDASIA:2fPSILI AND OXIAfDASIA:2..",
    "bCAPITAL LETTER EPSILON WITH PSILIfDASIAfPSILI AND VARIAfDASIA:2fPSILI AND OXIAfDASIA:2..",
    "bSMALL LETTER ETA WITH PSILIfDASIAfPSILI AND VARIAfDASIA:2fPSILI AND OXIAfDASIA:2",
    "fPSILI AND PERISPOMENIfDASIA:2bCAPITAL LETTER ETA WITH PSILIfDASIAfPSILI AND VARIAfDASIA:2",
    "fPSILI AND OXIAfDASIA:2fPSILI AND PERISPOMENIfDASIA:2bSMALL LETTER IOTA WITH PSILIfDASIA",
    "fPSILI AND VARIAfDASIA:2fPSILI AND OXIAfDASIA:2fPSILI AND PERISPOMENIfDASIA:2",
    "bCAPITAL LETTER IOTA WITH PSILIfDASIAfPSILI AND VARIAfDASIA:2fPSILI AND OXIAfDASIA:2",
    "fPSILI AND PERISPOMENIfDASIA:2bSMALL LETTER OMICRON WITH PSILIfDASIAfPSILI AND VARIA",
    "fDASIA:2fPSILI AND OXIAfDASIA:2..bCAPITAL LETTER OMICRON WITH PSILIfDASIAfPSILI AND VARIA",
    "fDASIA:2fPSILI AND OXIAfDASIA:2..bSMALL LETTER UPSILON WITH PSILIfDASIAfPSILI AND VARIA",
    "fDASIA:2fPSILI AND OXIAfDASIA:2fPSILI AND PERISPOMENIfDASIA:2.",
    "bCAPITAL LETTER UPSILON WITH DASIA.gAND VARIA.hOXIA.hPERISPOMENI",
    "bSMALL LETTER OMEGA WITH PSILIfDASIAfPSILI AND VARIAfDASIA:2fPSILI AND OXIAfDASIA:2",
    "fPSILI AND PERISPOMENIfDASIA:2bCAPITAL LETTER OMEGA WITH PSILIfDASIAfPSILI AND VARIA",
    "fDASIA:2fPSILI AND OXIAfDASIA:2fPSILI AND PERISPOMENIfDASIA:2bSMALL LETTER ALPHA WITH VARIA",
    "fOXIAdEPSILON WITH VARIAfOXIAdETA WITH VARIAfOXIAdIOTA WITH VARIAfOXIAdOMICRON WITH VARIA",
    "fOXIAdUPSILON WITH VARIAfOXIAdOMEGA WITH VARIAfOXIA..dALPHA WITH PSILI AND YPOGEGRAMMENI",
    "fDASIA:2fPSILI AND VARIA:2fDASIA:4fPSILI AND OXIA:2fDASIA:4fPSILI AND PERISPOMENI:2fDASIA:4",
    "bCAPITAL LETTER ALPHA WITH PSILI AND PROSGEGRAMMENIfDASIA:2fPSILI AND VARIA:2fDASIA:4",
    "fPSILI AND OXIA:2fDASIA:4fPSILI AND PERISPOMENI:2fDASIA:4",
    "bSMALL LETTER ETA WITH PSILI AND YPOGEGRAMMENIfDASIA:2fPSILI AND VARIA:2fDASIA:4",
    "fPSILI AND OXIA:2fDASIA:4fPSILI AND PERISPOMENI:2fDASIA:4",
    "bCAPITAL LETTER ETA WITH PSILI AND PROSGEGRAMMENIfDASIA:2fPSILI AND VARIA:2fDASIA:4",
    "fPSILI AND OXIA:2fDASIA:4fPSILI AND PERISPOMENI:2fDASIA:4",
    "bSMALL LETTER OMEGA WITH PSILI AND YPOGEGRAMMENIfDASIA:2fPSILI AND VARIA:2fDASIA:4",
    "fPSILI AND OXIA:2fDASIA:4fPSILI AND PERISPOMENI:2fDASIA:4",
    "bCAPITAL LETTER OMEGA WITH PSILI AND PROSGEGRAMMENIfDASIA:2fPSILI AND VARIA:2fDASIA:4",
    "fPSILI AND OXIA:2fDASIA:4fPSILI AND PERISPOMENI:2fDASIA:4bSMALL LETTER ALPHA WITH VRACHY",
    "fMACRONfVARIA AND YPOGEGRAMMENIf:1fOXIA AND:1.fPERISPOMENIgAND YPOGEGRAMMENI",
    "bCAPITAL LETTER ALPHA WITH VRACHYfMACRONfVARIAfOXIAfPROSGEGRAMMENIbKORONISbPROSGEGRAMMENI",
    "bPSILIbPERISPOMENIbDIALYTIKA AND:1bSMALL LETTER ETA WITH VARIA AND YPOGEGRAMMENIf:1",
    "fOXIA AND:1.fPERISPOMENIgAND YPOGEGRAMMENIbCAPITAL LETTER EPSILON WITH VARIAfOXIA",
    "dETA WITH VARIAfOXIAfPROSGEGRAMMENIbPSILI AND VARIAdOXIAdPERISPOMENI",
    "bSMALL LETTER IOTA WITH VRACHYfMACRONfDIALYTIKA AND VARIAhOXIA..fPERISPOMENI",
    "fDIALYTIKA AND:1bCAPITAL LETTER IOTA WITH VRACHYfMACRONfVARIAfOXIA.bDASIA AND VARIAdOXIA",
    "dPERISPOMENIbSMALL LETTER UPSILON WITH VRACHYfMACRONfDIALYTIKA AND VARIAhOXIA",
    "dRHO WITH PSILIfDASIAdUPSILON WITH PERISPOMENIfDIALYTIKA AND:1",
    "bCAPITAL LETTER UPSILON WITH VRACHYfMACRONfVARIAfOXIAdRHO WITH DASIAbDIALYTIKA AND VARIA",
    "dOXIAbVARIA..bSMALL LETTER OMEGA WITH VARIA AND YPOGEGRAMMENIf:1fOXIA AND:1.fPERISPOMENI",
    "gAND YPOGEGRAMMENIbCAPITAL LETTER OMICRON WITH VARIAfOXIAdOMEGA WITH VARIAfOXIA",
    "fPROSGEGRAMMENIbOXIAbDASIA"])]

end HttpGateway.Text.CharName
