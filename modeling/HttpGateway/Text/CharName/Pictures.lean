namespace HttpGateway.Text.CharName

def pictureNames : List (Nat × List String) := [
  (113664, [
    "aDUPLOYAN LETTER HcXcPcTcFcKcLcBcDcVcGcRcP NcD ScF NcK McR ScTHcSLOAN DHcDHcKKcSLOAN JcHL",
    "cLHcRHcMcNcJcScM NcN McJ McS JcM WITH DOTcN:2cJ:2eDOTS INSIDE AND ABOVEcS WITH DOTfBELOW",
    "cM ScN ScJ ScS ScM N ScN M ScJ:2cS J ScJ S WITH DOTdNeScS TeRdPeRcT SdR ScWcWHcW RcS NdM",
    "cK R ScG:2cS KeRcAcSLOAN OWcOAcOcAOUcIcEcIEcSHORT IcUIcEEcSLOAN EHcROMANIAN IcSLOAN EE",
    "cLONG IcYEcUcEUcXWcU NcLONG UcROMANIAN UcUHcSLOAN UcOOHcOWcOUcWAcWOcWIcWEIcWOWcNASAL UdOdI",
    "dAcPERNIN ANdAMcSLOAN ENdANdONcVOCALIC M.....bAFFIX LEFT HORIZONTAL SECANTcMID:2cRIGHT:2",
    "cLOW VERTICAL:1cMID:2cHIGH:2cATTACHED:1dLEFT-TO-RIGHT:1dTANGENTdTAILdE HOOKdI:1dTANGENT:1..",
    ".cHIGH ACUTEdTIGHT:1dGRAVEdLONG:1dDOTdCIRCLEdLINEdWAVEdVERTICAL.......cLOW ACUTEdTIGHT:1",
    "dGRAVEdLONG:1dDOTdCIRCLEdLINEdWAVEdVERTICALdARROW..bSIGN O WITH CROSSbTHICK LETTER SELECTOR",
    "bDOUBLE MARKbPUNCTUATION CHINOOK FULL STOPaSHORTHAND FORMAT LETTER OVERLAPcCONTINUING:1",
    "cDOWN STEPcUP:1"]),
  (118528, [
    "aZNAMENNY COMBINING MARK GORAZDO NIZKO S KRYZHEM ON LEFTd:5dTSATA:2dGORAZDO NIZKO:2d:3",
    "dSREDNE:2dMALO POVYSHE:2d:3dVYSOKO:2dMALO POVYSHE S KHOKHLOM:2d:5dVYSOKO:4",
    "dGORAZDO NIZKO S KRYZHEM ON RIGHTd:5dTSATA:2dGORAZDO NIZKO:2d:3dSREDNE:2dMALO POVYSHE:2d:3",
    "dVYSOKO:2dMALO POVYSHE S KHOKHLOM:2d:5dVYSOKO:4dTSATA S KRYZHEMdMALO POVYSHE:2",
    "dSTRANNO MALO POVYSHEdPOVYSHE S KRYZHEMeSTRANNOdVYSOKO S KRYZHEMdMALO POVYSHE STRANNO",
    "dGORAZDO VYSOKOdZELOdONdRAVNOdTIKHAYAdBORZAYAdUDARKAdPODVERTKAdLOMKAdKUPNAYAdKACHKAdZEVOK",
    "dSKOBAdRAZSEKAdKRYZH ON LEFT..cTONAL RANGE MARK MRACHNOfSVETLOfTRESVETLOcMARK ZADERZHKA",
    "dDEMESTVENNY:1dOTSECHKAdPODCHASHIEeWITH VERTICAL STROKEdCHASHKAePOLNAYAdOBLACHKO",
    "dSOROCHYA NOZHKAdTOCHKAdDVOETOCHIEcATTACHING VERTICAL OMETcMARK CURVED:1dKRYZH",
    "cLOWER TONAL RANGE INDICATORbPRIZNAK MODIFIER LEVEL-2+dDIRECTION FLIPdKRYZHdROG.........",
    "bNEUME KRYUKdTIKHYcPARAKLITcDVA V CHELNUcKLYUCHcZANOZHEKcSTOPITSAdS OCHKOMcPEREVODKA",
    "dNEPOSTOYANNAYAcSTOPITSA WITH SOROCHYA NOZHKAcCHELYUSTKAcPALKAcZAPYATAYAcGOLUBCHIK BORZY",
    "dTIKHYdMRACHNYdSVETLYdTRESVETLYcVRAKHIYA PROSTAYAdMRACHNAYAdSVETLAYAdTRESVETLAYA",
    "dKLYUCHEVAYA PROSTAYAeMRACHNAYAeSVETLAYAeTRESVETLAYAcDOUBLE ZAPYATAYAcREVERSED CHELYUSTKA",
    "cDERBITSAcKHAMILOcCHASHKAcPODCHASHIEcSKAMEYTSA MRACHNAYAdSVETLAYAdTRESVETLAYAdTIKHAYA",
    "cDEMESTVENNY KLYUCHcSKAMEYTSA KLYUCHEVAYA SVETLAYAdKLYUCHENEPOSTOYANNAYA",
    "dKLYUCHEVAYA TIKHAYAdDVOECHELNAYA PROSTAYAeSVETLAYAeNEPOSTOYANNAYAeKLYUCHEVAYAcSLOZHITIE",
    "dS ZAPYATOYdZAKRYTOEdS KRYZHEMcKRYZHcROGcFITAcKOBYLAcZMEYTSAcSTATYAdS ZAPYATOYeKRYZHEM",
    "eZAPYATOY I:1eKRYZHEM I ZAPYATOYdZAKRYTAYAeS ZAPYATOYdS ROGOMeDVUMYA ZAPYATYMI",
    "eZAPYATOY I PODCHASHIEMcPOLKULIZMYcSTATYA NEPOSTOYANNAYAcSTRELA PROSTAYAdMRACHNOTIKHAYA",
    "dKRYZHEVAYAdPOLUPOVODNAYAdPOVODNAYAdNEPOSTOYANNAYAdKLYUCHEPOVODNAYAdKLYUCHENEPOSTOYANNAYA",
    "dTIKHAYA PUTNAYAdDVOECHELNAYAdDVOECHELNOKRYZHEVAYAdDVOECHELNOPOVODNAYA",
    "dDVOECHELNAYA KLYUCHEVAYAdDVOECHELNOPOVODNAYA:1dGROMNAYA WITH SINGLE ZAPYATAYA",
    "dGROMOPOVODNAYA:3dGROMNAYAdGROMOPOVODNAYAeWITH DOUBLE ZAPYATAYAdGROMOKRYZHEVAYAePOVODNAYA",
    "cMECHIKdPOVODNYdKLYUCHEVOYdKLYUCHEPOVODNYdKLYUCHENEPOSTOYANNYcSTRELA TRYASOGLASNAYA",
    "dTRYASOPOVODNAYAdTRYASOSTRELNAYAcOSOKAdSVETLAYAdTRESVETLAYAdKRYUKOVAYA SVETLAYA",
    "dKLYUCHEVAYA:1eNEPOSTOYANNAYAcSTRELA KRYUKOVAYAePOVODNAYAeGROMNAYA WITH SINGLE ZAPYATAYA",
    "eGROMOPOVODNAYA:3eGROMNAYAeGROMOPOVODNAYAfWITH DOUBLE ZAPYATAYAeGROMOKRYZHEVAYAfPOVODNAYA",
    "eTRYASKAcKUFISMAcOBLAKOcDUDAcNEMKAcPAUK"]),
  (118784, [
    "aBYZANTINE MUSICAL SYMBOL PSILIdDASEIAdPERISPOMENIdOXEIA EKFONITIKONeDIPLI",
    "dVAREIA EKFONITIKONeDIPLIdKATHISTIdSYRMATIKIdPARAKLITIKIdYPOKRISISeDIPLIdKREMASTI",
    "dAPESO EKFONITIKONdEXO:1dTELEIAdKENTIMATAdAPOSTROFOSeDIPLIdSYNEVMAdTHITAdOLIGON ARCHAION",
    "dGORGON:1dPSILONdCHAMILONdVATHYdISON ARCHAIONdKENTIMA:1dKENTIMATA:1dSAXIMATAdPARICHON",
    "dSTAVROS APODEXIAdOXEIAI ARCHAIONdVAREIAI:1dAPODERMA:1dAPOTHEMAdKLASMAdREVMA",
    "dPIASMA ARCHAIONdTINAGMAdANATRICHISMAdSEISMAdSYNAGMA ARCHAIONeMETA STAVROU",
    "dOYRANISMA ARCHAIONdTHEMAdLEMOIdDYOdTRIAdTESSERAdKRATIMATAdAPESO EXO NEOdFTHORA ARCHAION",
    "dIMIFTHORAdTROMIKON ARCHAIONdKATAVA TROMIKONdPELASTONdPSIFISTONdKONTEVMAdCHOREVMA ARCHAION",
    "dRAPISMAdPARAKALESMA ARCHAIONdPARAKLITIKI:1dICHADINdNANAdPETASMAdKONTEVMA ALLOdTROMIKON:1",
    "dSTRAGGISMATAdGRONTHISMATAdISON NEOdOLIGON:1dOXEIA:1dPETASTIdKOUFISMAdPETASTOKOUFISMA",
    "dKRATIMOKOUFISMAdPELASTON NEOdKENTIMATA NEO ANOdKENTIMA:2dYPSILIdAPOSTROFOS NEO",
    "dAPOSTROFOI SYNDESMOS:1dYPORROIdKRATIMOYPORROONdELAFRONdCHAMILIdMIKRON ISONdVAREIA NEO",
    "dPIASMA:1dPSIFISTON:1dOMALONdANTIKENOMAdLYGISMAdPARAKLITIKI NEOdPARAKALESMA:1",
    "dETERON PARAKALESMAdKYLISMAdANTIKENOKYLISMAdTROMIKON NEOdEKSTREPTONdSYNAGMA NEOdSYRMA",
    "dCHOREVMA NEOdEPEGERMAdSEISMA NEOdXIRON KLASMAdTROMIKOPSIFISTONdPSIFISTOLYGISMA",
    "dTROMIKOLYGISMAdTROMIKOPARAKALESMAdPSIFISTOPARAKALESMAdTROMIKOSYNAGMAdPSIFISTOSYNAGMA",
    "dGORGOSYNTHETONdARGOSYNTHETONdETERON:1dOYRANISMA NEOdTHEMATISMOS ESOeEXOdTHEMA APLOUN",
    "dTHES KAI APOTHESdKATAVASMAdENDOFONONdYFEN KATOeANOdSTAVROSdKLASMA ANOdDIPLI ARCHAION",
    "dKRATIMA:1eALLOeNEOdAPODERMA:1dAPLIdDIPLIdTRIPLIdTETRAPLIdKORONISdLEIMMA ENOS CHRONOU",
    "eDYO CHRONONeTRION:1eTESSARON:1eIMISEOS CHRONOUdGORGON NEO ANOePARESTIGMENON ARISTERAfDEXIA",
    "dDIGORGONePARESTIGMENON ARISTERA KATOgANOfDEXIAdTRIGORGONdARGONdIMIDIARGONdDIARGON",
    "dAGOGI POLI ARGIeARGOTERIeARGIeMETRIAeMESIeGORGIeGORGOTERIePOLI GORGIdMARTYRIA PROTOS ICHOS",
    "eALLI:2eDEYTEROS:1eALLI:2eTRITOS:1eTRIFONIASeTETARTOS ICHOSfLEGETOS:1e:2ePLAGIOS:1",
    "dISAKIA TELOUS ICHIMATOSdAPOSTROFOI:2dFANEROSIS TETRAFONIASeMONOFONIASeDIFONIAS",
    "dMARTYRIA VARYS ICHOSePROTOVARYS:1ePLAGIOS TETARTOS:1dGORTHMIKON N APLOUNfDIPLOUN",
    "dENARXIS KAI FTHORA VOUdIMIFONONdIMIFTHORONdFTHORA ARCHAION DEYTEROU ICHOUeDIATONIKI PA",
    "fNANAeNAOS ICHOSeDIATONIKI DIeSKLIRON DIATONON:1eDIATONIKI KEfZOfNI KATOgANO",
    "eMALAKON CHROMA DIFONIASgMONOFONIASdFHTORA SKLIRON CHROMA VASIS",
    "dFTHORA SKLIRON CHROMA SYNAFIeNENANOdCHROA ZYGOSeKLITONeSPATHI",
    "dFTHORA I YFESIS TETARTIMORIONeENARMONIOS ANTIFONIAdYFESIS TRITIMORIONdDIESIS:1",
    "eTETARTIMORIONeAPLI DYO DODEKATAeMONOGRAMMOS TESSERA:1eDIGRAMMOS EX:1eTRIGRAMMOS OKTO:1",
    "dYFESIS APLI DYO:1eMONOGRAMMOS TESSERA:1eDIGRAMMOS EX:1eTRIGRAMMOS OKTO:1dGENIKI DIESIS",
    "eYFESISdDIASTOLI APLI MIKRIfMEGALIeDIPLIeTHESEOSdSIMANSIS:1fDISIMOUfTRISIMOUfTETRASIMOU",
    "eARSEOSfDISIMOUfTRISIMOUfTETRASIMOUdDIGRAMMA GGdDIFTOGGOS OUdSTIGMAdARKTIKO PAeVOUeGAeDIeKE",
    "eZOeNIdKENTIMATA NEO MESOdKENTIMA:2dKENTIMATA NEO KATOdKENTIMA:2dKLASMA:1dGORGON NEO:1.....",
    ".....aMUSICAL SYMBOL SINGLE BARLINEcDOUBLE:1cFINAL:1cREVERSE:2cDASHED:1cSHORT:1",
    "cLEFT REPEAT SIGNcRIGHT:2cREPEAT DOTScDAL SEGNOcDA CAPOcSEGNOcCODAcREPEATED FIGURE-1++",
    "cFERMATAdBELOWcBREATH MARKcCAESURAcBRACEcBRACKETcONE-LINE STAFFcTWO-LINE:1cTHREE-LINE:1",
    "cFOUR-LINE:1cFIVE-LINE:1cSIX-LINE:1cSIX-STRING FRETBOARDcFOUR-STRING:1cG CLEFeOTTAVA ALTA",
    "fBASSAcC CLEFcF:1eOTTAVA ALTAfBASSAcDRUM CLEF-1+..cMULTIPLE MEASURE RESTcDOUBLE SHARPdFLAT",
    "cFLAT UPdDOWNcNATURAL UPdDOWNcSHARP UPdDOWNcQUARTER TONE SHARPeFLATcCOMMON TIMEcCUT:1",
    "cOTTAVA ALTAdBASSAcQUINDICESIMA ALTAdBASSAcMULTI RESTcWHOLE:1cHALF:1cQUARTER:1cEIGHTH:1",
    "cSIXTEENTH:1cTHIRTY-SECOND:1cSIXTY-FOURTH:1cONE HUNDRED TWENTY-EIGHTH:1cX NOTEHEADcPLUS:1",
    "cCIRCLE X:1cSQUARE NOTEHEAD WHITEeBLACKcTRIANGLE NOTEHEAD UP WHITEfBLACKeLEFT WHITEfBLACK",
    "eRIGHT WHITEfBLACKeDOWN WHITEfBLACKeUP RIGHT WHITEgBLACKcMOON NOTEHEAD WHITEeBLACK",
    "cTRIANGLE-ROUND NOTEHEAD DOWN WHITEfBLACKcPARENTHESIS NOTEHEADcVOID:1cNOTEHEAD BLACK",
    "cNULL NOTEHEADcCLUSTER NOTEHEAD WHITEeBLACKcBREVEcWHOLE NOTEcHALF:1cQUARTER:1cEIGHTH:1",
    "cSIXTEENTH:1cTHIRTY-SECOND:1cSIXTY-FOURTH:1cONE HUNDRED TWENTY-EIGHTH:1cCOMBINING STEM",
    "dSPRECHGESANG:1dTREMOLO-1++cFINGERED TREMOLO-1++cCOMBINING AUGMENTATION DOTdFLAG-1++++",
    "cBEGIN BEAMcEND:1cBEGIN TIEcEND:1cBEGIN SLURcEND:1cBEGIN PHRASEcEND:1cCOMBINING ACCENT",
    "dSTACCATOdTENUTOdSTACCATISSIMOdMARCATOdMARCATO-STACCATOdACCENT-STACCATOdLOUREcARPEGGIATO UP",
    "dDOWNcCOMBINING DOITdRIPdFLIPdSMEARdBENDdDOUBLE TONGUEdTRIPLE:1cRINFORZANDOcSUBITOcZcPIANO",
    "cMEZZOcFORTEcCRESCENDOcDECRESCENDOcGRACE NOTE SLASHeNO:1cTRcTURNcINVERTED:1cTURN SLASHdUP",
    "cORNAMENT STROKE-1++++++++++cHAUPTSTIMMEcNEBENSTIMMEcEND OF STIMMEcDEGREE SLASH",
    "cCOMBINING DOWN BOWdUP:1dHARMONICdSNAP PIZZICATOcPEDAL MARKdUP:1cHALF PEDAL:1cGLISSANDO UP",
    "dDOWNcWITH FINGERNAILScDAMPdALLcMAXIMAcLONGAcBREVIScSEMIBREVIS WHITEdBLACKcMINIMAdBLACK",
    "cSEMIMINIMA WHITEdBLACKcFUSA WHITEdBLACKcLONGA PERFECTA RESTdIMPERFECTA:1cBREVIS:1",
    "cSEMIBREVIS:1cMINIMA:1cSEMIMINIMA:1cTEMPUS PERFECTUM CUM PROLATIONE PERFECTAgIMPERFECTA",
    "gPERFECTA DIMINUTION-1dIMPERFECTUM CUM PROLATIONE PERFECTAgIMPERFECTAhDIMINUTION-1++cCROIX",
    "cGREGORIAN C CLEFdF:1cSQUARE BcVIRGAcPODATUScCLIVIScSCANDICUScCLIMACUScTORCULUScPORRECTUS",
    "dFLEXUScSCANDICUS:1cTORCULUS RESUPINUScPES SUBPUNCTIScKIEVAN C CLEFdEND OF PIECEdFINAL NOTE",
    "dRECITATIVE MARKdWHOLE NOTEdHALF:1dQUARTER NOTE STEM DOWNgUPdEIGHTH NOTE STEM DOWNgUP",
    "dFLAT SIGNcSORIcKORON.....................aGREEK VOCAL NOTATION SYMBOL-1+++++++++++++++++++",
    "++++dSYMBOL-50++++bINSTRUMENTAL NOTATION SYMBOL-1+dSYMBOL-4+dSYMBOL-7+dSYMBOL-11+++",
    "dSYMBOL-17++dSYMBOL-23++++dSYMBOL-29+dSYMBOL-32dSYMBOL-36++++dSYMBOL-42+dSYMBOL-45",
    "dSYMBOL-47+++++++aCOMBINING GREEK MUSICAL TRISEMEdTETRASEMEdPENTASEMEaGREEK MUSICAL LEIMMA"]),
  (119520, [
    "aMAYAN NUMERAL ZEROcONEcTWOcTHREEcFOURcFIVEcSIXcSEVENcEIGHTcNINEcTENcELEVENcTWELVEcTHIRTEEN",
    "cFOURTEENcFIFTEENcSIXTEENcSEVENTEENcEIGHTEENcNINETEEN............aMONOGRAM FOR EARTH",
    "aDIGRAM FOR HEAVENLY:1cHUMAN:1cEARTHLY HEAVENdHUMANcEARTHaTETRAGRAM FOR CENTREcFULL CIRCLE",
    "cMIREDcBARRIERcKEEPING SMALLcCONTRARIETYcASCENTcOPPOSITIONcBRANCHING OUT",
    "cDEFECTIVENESS OR DISTORTIONcDIVERGENCEcYOUTHFULNESScINCREASEcPENETRATIONcREACHcCONTACT",
    "cHOLDING BACKcWAITINGcFOLLOWINGcADVANCEcRELEASEcRESISTANCEcEASEcJOYcCONTENTIONcENDEAVOUR",
    "cDUTIEScCHANGEcDECISIVENESScBOLD RESOLUTIONcPACKINGcLEGIONcCLOSENESScKINSHIPcGATHERING",
    "cSTRENGTHcPURITYcFULLNESScRESIDENCEcLAW OR MODELcRESPONSEcGOING TO MEETcENCOUNTERScSTOVE",
    "cGREATNESScENLARGEMENTcPATTERNcRITUALcFLIGHTcVASTNESS OR WASTINGcCONSTANCYcMEASUREcETERNITY",
    "cUNITYcDIMINISHMENTcCLOSED MOUTHcGUARDEDNESScGATHERING INcMASSINGcACCUMULATION",
    "cEMBELLISHMENTcDOUBTcWATCHcSINKINGcINNERcDEPARTUREcDARKENINGcDIMMINGcEXHAUSTIONcSEVERANCE",
    "cSTOPPAGEcHARDNESScCOMPLETIONcCLOSUREcFAILUREcAGGRAVATIONcCOMPLIANCEcON THE VERGE",
    "cDIFFICULTIEScLABOURINGcFOSTERING.........aCOUNTING ROD UNIT DIGIT ONEeTWOeTHREEeFOUReFIVE",
    "eSIXeSEVENeEIGHTeNINEcTENS DIGIT ONEeTWOeTHREEeFOUReFIVEeSIXeSEVENeEIGHTeNINE",
    "aIDEOGRAPHIC TALLY MARK ONEdTWOdTHREEdFOURdFIVEaTALLY MARK ONEcFIVE"]),
  (119808, [
    "aMATHEMATICAL BOLD CAPITAL AdBdCdDdEdFdGdHdIdJdKdLdMdNdOdPdQdRdSdTdUdVdWdXdYdZcSMALL AdBdC",
    "dDdEdFdGdHdIdJdKdLdMdNdOdPdQdRdSdTdUdVdWdXdYdZbITALIC CAPITAL AdBdCdDdEdFdGdHdIdJdKdLdMdNdO",
    "dPdQdRdSdTdUdVdWdXdYdZcSMALL AdBdCdDdEdFdG.dIdJdKdLdMdNdOdPdQdRdSdTdUdVdWdXdYdZ",
    "bBOLD ITALIC CAPITAL AeBeCeDeEeFeGeHeIeJeKeLeMeNeOePeQeReSeTeUeVeWeXeYeZdSMALL AeBeCeDeEeF",
    "eGeHeIeJeKeLeMeNeOePeQeReSeTeUeVeWeXeYeZbSCRIPT CAPITAL A.dCdD..dG..dJdK..dNdOdPdQ.dSdTdUdV",
    "dWdXdYdZcSMALL AdBdCdD.dF.dHdIdJdKdLdMdN.dPdQdRdSdTdUdVdWdXdYdZbBOLD SCRIPT CAPITAL AeBeCeD",
    "eEeFeGeHeIeJeKeLeMeNeOePeQeReSeTeUeVeWeXeYeZdSMALL AeBeCeDeEeFeGeHeIeJeKeLeMeNeOePeQeReSeT",
    "eUeVeWeXeYeZbFRAKTUR CAPITAL AdB.dDdEdFdG..dJdKdLdMdNdOdPdQ.dSdTdUdVdWdXdY.cSMALL AdBdCdDdE",
    "dFdGdHdIdJdKdLdMdNdOdPdQdRdSdTdUdVdWdXdYdZbDOUBLE-STRUCK CAPITAL AdB.dDdEdFdG.dIdJdKdLdM.dO",
    "...dSdTdUdVdWdXdY.cSMALL AdBdCdDdEdFdGdHdIdJdKdLdMdNdOdPdQdRdSdTdUdVdWdXdYdZ",
    "bBOLD FRAKTUR CAPITAL AeBeCeDeEeFeGeHeIeJeKeLeMeNeOePeQeReSeTeUeVeWeXeYeZdSMALL AeBeCeDeEeF",
    "eGeHeIeJeKeLeMeNeOePeQeReSeTeUeVeWeXeYeZbSANS-SERIF CAPITAL AdBdCdDdEdFdGdHdIdJdKdLdMdNdOdP",
    "dQdRdSdTdUdVdWdXdYdZcSMALL AdBdCdDdEdFdGdHdIdJdKdLdMdNdOdPdQdRdSdTdUdVdWdXdYdZ",
    "cBOLD CAPITAL AeBeCeDeEeFeGeHeIeJeKeLeMeNeOePeQeReSeTeUeVeWeXeYeZdSMALL AeBeCeDeEeFeGeHeIeJ",
    "eKeLeMeNeOePeQeReSeTeUeVeWeXeYeZcITALIC CAPITAL AeBeCeDeEeFeGeHeIeJeKeLeMeNeOePeQeReSeTeUeV",
    "eWeXeYeZdSMALL AeBeCeDeEeFeGeHeIeJeKeLeMeNeOePeQeReSeTeUeVeWeXeYeZcBOLD ITALIC CAPITAL AfB",
    "fCfDfEfFfGfHfIfJfKfLfMfNfOfPfQfRfSfTfUfVfWfXfYfZeSMALL AfBfCfDfEfFfGfHfIfJfKfLfMfNfOfPfQfR",
    "fSfTfUfVfWfXfYfZbMONOSPACE CAPITAL AdBdCdDdEdFdGdHdIdJdKdLdMdNdOdPdQdRdSdTdUdVdWdXdYdZ",
    "cSMALL AdBdCdDdEdFdGdHdIdJdKdLdMdNdOdPdQdRdSdTdUdVdWdXdYdZbITALIC SMALL DOTLESS IeJ..",
    "bBOLD CAPITAL ALPHAdBETAdGAMMAdDELTAdEPSILONdZETAdETAdTHETAdIOTAdKAPPAdLAMDAdMUdNUdXI",
    "dOMICRONdPIdRHOdTHETA SYMBOLdSIGMAdTAUdUPSILONdPHIdCHIdPSIdOMEGAcNABLAcSMALL ALPHAdBETA",
    "dGAMMAdDELTAdEPSILONdZETAdETAdTHETAdIOTAdKAPPAdLAMDAdMUdNUdXIdOMICRONdPIdRHOdFINAL SIGMAd:1",
    "dTAUdUPSILONdPHIdCHIdPSIdOMEGAcPARTIAL DIFFERENTIALcEPSILON SYMBOLcTHETA:1cKAPPA:1cPHI:1",
    "cRHO:1cPI:1bITALIC CAPITAL ALPHAdBETAdGAMMAdDELTAdEPSILONdZETAdETAdTHETAdIOTAdKAPPAdLAMDA",
    "dMUdNUdXIdOMICRONdPIdRHOdTHETA SYMBOLdSIGMAdTAUdUPSILONdPHIdCHIdPSIdOMEGAcNABLAcSMALL ALPHA",
    "dBETAdGAMMAdDELTAdEPSILONdZETAdETAdTHETAdIOTAdKAPPAdLAMDAdMUdNUdXIdOMICRONdPIdRHO",
    "dFINAL SIGMAd:1dTAUdUPSILONdPHIdCHIdPSIdOMEGAcPARTIAL DIFFERENTIALcEPSILON SYMBOLcTHETA:1",
    "cKAPPA:1cPHI:1cRHO:1cPI:1bBOLD ITALIC CAPITAL ALPHAeBETAeGAMMAeDELTAeEPSILONeZETAeETAeTHETA",
    "eIOTAeKAPPAeLAMDAeMUeNUeXIeOMICRONePIeRHOeTHETA SYMBOLeSIGMAeTAUeUPSILONePHIeCHIePSIeOMEGA",
    "dNABLAdSMALL ALPHAeBETAeGAMMAeDELTAeEPSILONeZETAeETAeTHETAeIOTAeKAPPAeLAMDAeMUeNUeXI",
    "eOMICRONePIeRHOeFINAL SIGMAe:1eTAUeUPSILONePHIeCHIePSIeOMEGAdPARTIAL DIFFERENTIAL",
    "dEPSILON SYMBOLdTHETA:1dKAPPA:1dPHI:1dRHO:1dPI:1bSANS-SERIF BOLD CAPITAL ALPHAeBETAeGAMMA",
    "eDELTAeEPSILONeZETAeETAeTHETAeIOTAeKAPPAeLAMDAeMUeNUeXIeOMICRONePIeRHOeTHETA SYMBOLeSIGMA",
    "eTAUeUPSILONePHIeCHIePSIeOMEGAdNABLAdSMALL ALPHAeBETAeGAMMAeDELTAeEPSILONeZETAeETAeTHETA",
    "eIOTAeKAPPAeLAMDAeMUeNUeXIeOMICRONePIeRHOeFINAL SIGMAe:1eTAUeUPSILONePHIeCHIePSIeOMEGA",
    "dPARTIAL DIFFERENTIALdEPSILON SYMBOLdTHETA:1dKAPPA:1dPHI:1dRHO:1dPI:1dITALIC CAPITAL ALPHA",
    "fBETAfGAMMAfDELTAfEPSILONfZETAfETAfTHETAfIOTAfKAPPAfLAMDAfMUfNUfXIfOMICRONfPIfRHO",
    "fTHETA SYMBOLfSIGMAfTAUfUPSILONfPHIfCHIfPSIfOMEGAeNABLAeSMALL ALPHAfBETAfGAMMAfDELTA",
    "fEPSILONfZETAfETAfTHETAfIOTAfKAPPAfLAMDAfMUfNUfXIfOMICRONfPIfRHOfFINAL SIGMAf:1fTAUfUPSILON",
    "fPHIfCHIfPSIfOMEGAePARTIAL DIFFERENTIALeEPSILON SYMBOLeTHETA:1eKAPPA:1ePHI:1eRHO:1ePI:1",
    "bBOLD CAPITAL DIGAMMAcSMALL:1..cDIGIT ZEROdONEdTWOdTHREEdFOURdFIVEdSIXdSEVENdEIGHTdNINE",
    "bDOUBLE-STRUCK DIGIT ZEROdONEdTWOdTHREEdFOURdFIVEdSIXdSEVENdEIGHTdNINE",
    "bSANS-SERIF DIGIT ZEROdONEdTWOdTHREEdFOURdFIVEdSIXdSEVENdEIGHTdNINEcBOLD DIGIT ZEROeONEeTWO",
    "eTHREEeFOUReFIVEeSIXeSEVENeEIGHTeNINEbMONOSPACE DIGIT ZEROdONEdTWOdTHREEdFOURdFIVEdSIX",
    "dSEVENdEIGHTdNINEaSIGNWRITING HAND-FIST INDEXbHAND-CIRCLE:1bHAND-CUP:1bHAND-OVAL:1",
    "bHAND-HINGE:1bHAND-ANGLE:1bHAND-FIST INDEX BENTbHAND-CIRCLE:2bHAND-FIST THUMB UNDER:2",
    "cINDEX RAISED KNUCKLEdCUPPEDdHINGEDeLOWbHAND-CIRCLE INDEX HINGEbHAND-FIST INDEX MIDDLE",
    "bHAND-CIRCLE:2bHAND-FIST INDEX MIDDLE BENTeRAISED KNUCKLESeHINGEDdUP:2dHINGED MIDDLE UP",
    "dMIDDLE CONJOINEDfINDEX BENTfMIDDLE:1fCUPPEDfHINGEDeCROSSEDbHAND-CIRCLE:3",
    "bHAND-FIST MIDDLE BENT OVER INDEXcINDEX BENT OVER MIDDLEdMIDDLE THUMBbHAND-CIRCLE:3",
    "bHAND-FIST INDEX MIDDLE STRAIGHT THUMB BENTeBENT THUMB STRAIGHTeTHUMB BENT",
    "eHINGED SPREAD THUMB SIDEdUP MIDDLE HINGED:2hCONJOINEDdHINGED MIDDLE UP THUMB SIDE",
    "dMIDDLE UP SPREAD THUMB FORWARDeTHUMB CUPPEDfCIRCLEDfHOOKEDfHINGED",
    "cTHUMB BETWEEN INDEX MIDDLE STRAIGHTcINDEX MIDDLE CONJOINED THUMB SIDEhCONJOINEDhBENT",
    "cMIDDLE THUMB HOOKED INDEX UPcINDEX THUMB HOOKED MIDDLE:1",
    "dMIDDLE CONJOINED HINGED THUMB SIDEeCROSSED:2eCONJOINED THUMB FORWARDfCUPPED:2",
    "cMIDDLE THUMB CUPPED INDEX UPcINDEX THUMB CUPPED MIDDLE:1cMIDDLE THUMB CIRCLED INDEX:1",
    "gHINGEDcINDEX THUMB ANGLED OUT MIDDLE UPfIN:2eCIRCLED:2dMIDDLE THUMB CONJOINED HINGED",
    "fANGLED OUTgcMIDDLE THUMB ANGLED OUT INDEX UPhCROSSEDfINDEX UP",
    "cINDEX THUMB HOOKED MIDDLE HINGEDbHAND-FLAT FOUR FINGERSeBENTeHINGEDeCONJOINEDfSPLIT",
    "bHAND-CLAW FOUR FINGERS CONJOINEDbHAND-FIST FOUR FINGERS CONJOINED BENT",
    "bHAND-HINGE FOUR FINGERS CONJOINEDbHAND-FLAT FIVE FINGERS SPREADcHEEL:3",
    "cFIVE FINGERS SPREAD FOUR BENTcHEEL:5cFIVE FINGERS SPREAD:1cHEEL:4",
    "cFIVE FINGERS SPREAD THUMB FORWARDbHAND-CUP FIVE FINGERS SPREADfOPENbHAND-HINGE:4",
    "bHAND-OVAL FIVE FINGERS SPREADbHAND-FLAT FIVE FINGERS SPREAD HINGEDgTHUMB SIDEgNO THUMBc",
    "cBETWEEN PALM FACINGScHEELcTHUMB SIDEcHEEL:2cTHUMB BENTdFORWARDcSPLIT INDEX THUMB SIDE",
    "dCENTREeTHUMB SIDEgBENTdLITTLEbHAND-CLAWcTHUMB SIDEcNO THUMBcTHUMB FORWARD",
    "bHAND-HOOK CURLICUEcbHAND-CUP OPENccOPEN THUMB SIDEc:2cOPEN NO THUMBc:2cOPEN THUMB FORWARD",
    "c:2bHAND-CURLICUE OPENcbHAND-CIRCLEbHAND-OVALcTHUMB SIDEcNO THUMBcTHUMB FORWARD",
    "bHAND-HINGE OPENdTHUMB FORWARDccSMALLcOPEN THUMB SIDEc:2cOPEN NO THUMBc:2",
    "cTHUMB SIDE TOUCHING INDEXdBETWEEN MIDDLE RINGbHAND-ANGLEbHAND-FIST INDEX MIDDLE RING",
    "bHAND-CIRCLE:3bHAND-HINGE:3bHAND-ANGLE:3bHAND-HINGE LITTLEbHAND-FIST INDEX MIDDLE RING BENT",
    "fCONJOINEDbHAND-HINGE:4bHAND-FIST LITTLE DOWNeRIPPLE STRAIGHTfCURVEDeOTHERS CIRCLEDdUP",
    "cTHUMB UNDER:2bHAND-CIRCLE:2bHAND-OVAL:2bHAND-ANGLE:2bHAND-FIST LITTLE RAISED KNUCKLEdBENT",
    "dTOUCHES THUMBd:1bHAND-HINGE:2bHAND-FIST LITTLE INDEX:1bHAND-HINGE:3",
    "bHAND-ANGLE LITTLE INDEX THUMB INDEX THUMB OUThbHAND-FIST LITTLE INDEXbHAND-CIRCLE:2",
    "bHAND-HINGE:2bHAND-ANGLE:2bHAND-FIST INDEX MIDDLE LITTLEbHAND-CIRCLE:3bHAND-HINGE:3cRING",
    "bHAND-ANGLE INDEX MIDDLE LITTLEbHAND-FIST INDEX MIDDLE CROSS:1bHAND-CIRCLE:4",
    "bHAND-FIST RING DOWNbHAND-HINGE RING DOWN INDEX THUMB HOOK MIDDLE",
    "bHAND-ANGLE RING DOWN MIDDLE THUMB INDEX CROSSbHAND-FIST RING UPdRAISED KNUCKLEdLITTLE",
    "bHAND-CIRCLE:2bHAND-OVAL:2bHAND-ANGLE:2bHAND-FIST RING MIDDLEeCONJOINEDeRAISED KNUCKLES",
    "dINDEXdTHUMBbHAND-HOOK:2bHAND-FIST INDEX RING LITTLEbHAND-CIRCLE:3",
    "bHAND-CURLICUE INDEX RING LITTLE ONbHAND-HOOK INDEX RING LITTLE OUTfINfUNDER",
    "bHAND-CUP INDEX RING LITTLEbHAND-HINGE:3bHAND-ANGLE INDEX RING LITTLE OUTf",
    "bHAND-FIST MIDDLE DOWNbHAND-HINGE MIDDLEbHAND-FIST MIDDLE UPbHAND-CIRCLE:2",
    "bHAND-FIST MIDDLE RAISED KNUCKLEdUP THUMB SIDEbHAND-HOOK MIDDLE THUMB",
    "bHAND-FIST MIDDLE THUMB LITTLEd:1dRING:1bHAND-CIRCLE:3bHAND-CURLICUE MIDDLE RING LITTLE ON",
    "bHAND-CUP MIDDLE RING LITTLEbHAND-HINGE:3bHAND-ANGLE MIDDLE RING LITTLE OUTfINf",
    "bHAND-CIRCLE MIDDLE RING LITTLE BENTbHAND-CLAW MIDDLE RING LITTLE CONJOINEDgSIDE",
    "bHAND-HOOK MIDDLE RING LITTLE CONJOINED OUTgINgbHAND-HINGE INDEX HINGED",
    "bHAND-FIST INDEX THUMB SIDEbHAND-HINGE:3bHAND-FIST INDEX THUMB SIDE THUMB DIAGONAL",
    "gCONJOINEDgBENTfINDEX:1fBOTH:1fINDEX HINGEeFORWARD INDEX STRAIGHTgBENTeHOOKeCURLICUE",
    "eCURVE THUMB INSIDEbHAND-CLAW:5bHAND-FIST INDEX THUMB CURVE THUMB UNDEReCIRCLE",
    "bHAND-CUP INDEX THUMBeOPENbHAND-HINGE:3eLARGEeeSMALLbHAND-ANGLE INDEX THUMB OUTeINe",
    "bHAND-FIST:1dHEELdSIDE DIAGONALeCONJOINEDeBENTdFORWARDdBETWEEN INDEX MIDDLEeMIDDLE RING",
    "eRING LITTLEdUNDER TWO FINGERSdOVER:2dUNDER THREE:1eFOUR:1dOVER FOUR RAISED KNUCKLESccHEEL",
    "bTOUCH SINGLEcMULTIPLEcBETWEENbGRASP SINGLEcMULTIPLEcBETWEENbSTRIKE SINGLEcMULTIPLEcBETWEEN",
    "bBRUSH SINGLEcMULTIPLEcBETWEENbRUB SINGLEcMULTIPLEcBETWEENbSURFACE SYMBOLScBETWEEN",
    "bSQUEEZE LARGE SINGLEcSMALL:1cLARGE MULTIPLEcSMALL:1cSEQUENTIALbFLICK LARGE SINGLEcSMALL:1",
    "cLARGE MULTIPLEcSMALL:1cSEQUENTIALbSQUEEZE FLICK ALTERNATINGbMOVEMENT-HINGE UP DOWN LARGE",
    "eSMALLdSEQUENTIALcDOWN:1cUP DOWN ALTERNATING LARGEfSMALLcSIDE TO SIDE SCISSORS",
    "bMOVEMENT-WALLPLANE FINGER CONTACTbMOVEMENT-FLOORPLANE:2",
    "bMOVEMENT-WALLPLANE SINGLE STRAIGHT SMALLeMEDIUMeLARGEeLARGESTdWRIST FLEXcDOUBLE STRAIGHT",
    "dWRIST FLEXdALTERNATINGeWRIST FLEXcCROSScTRIPLE STRAIGHT MOVEMENTdWRIST FLEXdALTERNATING",
    "eWRIST FLEXcBEND SMALLdMEDIUMdLARGEcCORNER SMALLdMEDIUMdLARGEdROTATIONcCHECK SMALLdMEDIUM",
    "dLARGEcBOX SMALLdMEDIUMdLARGEcZIGZAG SMALLdMEDIUMdLARGEcPEAKS SMALLdMEDIUMdLARGE",
    "bTRAVEL-WALLPLANE ROTATION-WALLPLANE SINGLEdDOUBLEdALTERNATINGcROTATION-FLOORPLANE SINGLE",
    "dDOUBLEdALTERNATINGcSHAKINGcARM SPIRAL SINGLEeDOUBLEeTRIPLEbMOVEMENT-DIAGONAL AWAY SMALL",
    "dMEDIUMdLARGEdLARGESTcTOWARDS SMALLdMEDIUMdLARGEdLARGESTcBETWEEN AWAY SMALLeMEDIUMeLARGE",
    "eLARGESTdTOWARDS SMALLeMEDIUMeLARGEeLARGESTbMOVEMENT-FLOORPLANE SINGLE STRAIGHT SMALL",
    "eMEDIUMeLARGEeLARGESTdWRIST FLEXcDOUBLE STRAIGHTdWRIST FLEXdALTERNATINGeWRIST FLEXcCROSS",
    "cTRIPLE STRAIGHT MOVEMENTdWRIST FLEXdALTERNATING MOVEMENTeWRIST FLEXcBENDcCORNER SMALL",
    "dMEDIUMdLARGEcCHECKcBOX SMALLdMEDIUMdLARGEcZIGZAG SMALLdMEDIUMdLARGEcPEAKS SMALLdMEDIUM",
    "dLARGEbTRAVEL-FLOORPLANE ROTATION-FLOORPLANE SINGLEdDOUBLEdALTERNATING",
    "cROTATION-WALLPLANE SINGLEdDOUBLEdALTERNATINGcSHAKING",
    "bMOVEMENT-WALLPLANE CURVE QUARTER SMALLeMEDIUMeLARGEeLARGESTdHALF-CIRCLE SMALLeMEDIUMeLARGE",
    "eLARGESTdTHREE-QUARTER CIRCLE SMALLfMEDIUMcHUMP SMALLdMEDIUMdLARGEcLOOP SMALLdMEDIUMdLARGE",
    "dSMALL DOUBLEcWAVE CURVE DOUBLE SMALLfMEDIUMfLARGEeTRIPLE SMALLfMEDIUMfLARGE",
    "cCURVE THEN STRAIGHTcCURVED CROSS SMALLeMEDIUMbROTATION-WALLPLANE SINGLEcDOUBLEcALTERNATE",
    "bMOVEMENT-WALLPLANE SHAKINGcCURVE HITTING FRONT WALLcHUMP:3cLOOP:3cWAVE:3",
    "bROTATION-WALLPLANE SINGLE:3cDOUBLE:3cALTERNATING:3bMOVEMENT-WALLPLANE CURVE HITTING CHEST",
    "cHUMP:2cLOOP:2cWAVE:2bROTATION-WALLPLANE SINGLE:2cDOUBLE:2cALTERNATING:2",
    "bMOVEMENT-WALLPLANE WAVE DIAGONAL PATH SMALLfMEDIUMfLARGE",
    "bMOVEMENT-FLOORPLANE CURVE HITTING CEILING SMALLfLARGEcHUMP HITTING CEILING SMALL DOUBLE",
    "fLARGE:1fSMALL TRIPLEfLARGE:1cLOOP HITTING CEILING SMALL SINGLEfLARGE:1fSMALL DOUBLE",
    "fLARGE:1cWAVE HITTING CEILING SMALLfLARGEbROTATION-FLOORPLANE SINGLE HITTING CEILING",
    "cDOUBLE:2cALTERNATING:2bMOVEMENT-FLOORPLANE CURVE HITTING FLOOR SMALLfLARGE",
    "cHUMP HITTING FLOOR SMALL DOUBLEfLARGE:1fTRIPLE SMALL TRIPLEgLARGE:1",
    "cLOOP HITTING FLOOR SMALL SINGLEfLARGE:1fSMALL DOUBLEfLARGE:1cWAVE HITTING FLOOR SMALL",
    "fLARGEbROTATION-FLOORPLANE SINGLE HITTING FLOORcDOUBLE:2cALTERNATING:2",
    "bMOVEMENT-FLOORPLANE CURVE SMALLdMEDIUMdLARGEdLARGESTdCOMBINEDcHUMP SMALLcLOOP:1cWAVE SNAKE",
    "dSMALLdLARGEbROTATION-FLOORPLANE SINGLEcDOUBLEcALTERNATING",
    "bMOVEMENT-FLOORPLANE SHAKING PARALLELbMOVEMENT-WALLPLANE ARM CIRCLE SMALL SINGLEeMEDIUM:1",
    "eSMALL DOUBLEeMEDIUM:1bMOVEMENT-FLOORPLANE ARM CIRCLE HITTING WALL SMALL SINGLEgMEDIUM:1",
    "gLARGE:1gSMALL DOUBLEgMEDIUM:1gLARGE:1bMOVEMENT-WALLPLANE WRIST CIRCLE FRONT SINGLEfDOUBLE",
    "bMOVEMENT-FLOORPLANE WRIST CIRCLE HITTING WALL SINGLEgDOUBLE",
    "bMOVEMENT-WALLPLANE FINGER CIRCLES SINGLEeDOUBLE",
    "bMOVEMENT-FLOORPLANE FINGER CIRCLES HITTING WALL SINGLEgDOUBLEbDYNAMIC ARROWHEAD SMALL",
    "dLARGEcFASTcSLOWcTENSEcRELAXEDcSIMULTANEOUSdALTERNATINGcEVERY OTHER TIMEcGRADUALbHEADcRIM",
    "cMOVEMENT-WALLPLANE STRAIGHTdTILTcMOVEMENT-FLOORPLANE STRAIGHTcMOVEMENT-WALLPLANE CURVE",
    "cMOVEMENT-FLOORPLANE:1cMOVEMENT CIRCLEbFACE DIRECTION POSITION NOSE FORWARD TILTING",
    "fUP OR DOWNiTILTINGbEYEBROWS STRAIGHT UPdNEUTRALdDOWNbDREAMY EYEBROWS NEUTRAL:1",
    "dDOWN NEUTRALdUP:1dNEUTRAL UPbFOREHEAD NEUTRALcCONTACTcWRINKLEDbEYES OPENcSQUEEZEDcCLOSED",
    "bEYE BLINK SINGLEdMULTIPLEbEYES HALF OPENcWIDE:1cHALF CLOSEDcWIDENING MOVEMENTbEYE WINK",
    "bEYELASHES UPcDOWNcFLUTTERINGbEYEGAZE-WALLPLANE STRAIGHTdDOUBLEdALTERNATING",
    "bEYEGAZE-FLOORPLANE STRAIGHTdDOUBLEdALTERNATINGbEYEGAZE-WALLPLANE CURVED",
    "bEYEGAZE-FLOORPLANE:1bEYEGAZE-WALLPLANE CIRCLINGbCHEEKS PUFFEDcNEUTRALcSUCKED",
    "bTENSE CHEEKS HIGHdMIDDLEdLOWbEARSbNOSE NEUTRALcCONTACTcWRINKLEScWIGGLESbAIR BLOWING OUT",
    "cSUCKING INcBLOW SMALL ROTATIONScSUCK:2bBREATH INHALEcEXHALEbMOUTH CLOSED NEUTRALdFORWARD",
    "dCONTACTcSMILEdWRINKLEDdOPENcFROWNdWRINKLEDdOPENcOPEN CIRCLEdFORWARDdWRINKLEDdOVALeWRINKLED",
    "eYAWNdRECTANGLEeWRINKLEDeYAWNcKISSdFORWARDdWRINKLEDcTENSEdFORWARDdSUCKED",
    "bLIPS PRESSED TOGETHERbLIP LOWER OVER UPPERcUPPER OVER LOWERbMOUTH CORNERScWRINKLES SINGLE",
    "dDOUBLEbTONGUE STICKING OUT FARcLICKING LIPScTIP BETWEEN:1dTOUCHING INSIDE MOUTH",
    "cINSIDE MOUTH RELAXEDcMOVES AGAINST CHEEKcCENTRE STICKING OUTdINSIDE MOUTHbTEETHcMOVEMENT",
    "cON TONGUEeMOVEMENTdLIPSeMOVEMENTcBITE LIPSbMOVEMENT-WALLPLANE JAWbMOVEMENT-FLOORPLANE:1",
    "bNECKbHAIRbEXCITEMENTbSHOULDER HIP SPINEdPOSITIONSbWALLPLANE SHOULDER HIP MOVEbFLOORPLANE:3",
    "bSHOULDER TILTING FROM WAISTbTORSO-WALLPLANE STRAIGHT STRETCHcCURVED BEND",
    "bTORSO-FLOORPLANE TWISTINGbUPPER BODY TILTING FROM HIP JOINTSbLIMB COMBINATIONcLENGTH-1++++",
    "++bFINGERbLOCATION-WALLPLANE SPACEbLOCATION-FLOORPLANE:1bLOCATION HEIGHTcWIDTHcDEPTH",
    "cHEAD NECKcTORSOcLIMBS DIGITSbCOMMAbFULL STOPbSEMICOLONbCOLONbPARENTHESIS...............",
    "bFILL MODIFIER-2++++.bROTATION MODIFIER-2++++++++++++++"]),
  (122624, [
    "aLATIN SMALL LETTER FENG DIGRAPH WITH TRILLdREVERSED SCRIPT GbLETTER SMALL CAPITAL TURNED G",
    "bSMALL LETTER REVERSED KbLETTER SMALL CAPITAL L WITH BELT",
    "bSMALL LETTER LEZH WITH RETROFLEX HOOKdTURNED Y WITH BELTdREVERSED ENG",
    "dTURNED R WITH LONG LEG AND RETROFLEX HOOKdT WITH HOOK:3bLETTER RETROFLEX CLICK WITH:2",
    "bSMALL LETTER ESH WITH DOUBLE BARhAND CURLdTURNED T WITH:1bLETTER INVERTED GLOTTAL STOP:2",
    "cSTRETCHED C:2cSMALL CAPITAL TURNED KbSMALL LETTER L WITH FISHHOOK",
    "dDEZH DIGRAPH WITH PALATAL HOOKdL WITH BELT AND:2dENG WITH:2dTURNED R:3",
    "dR WITH FISHHOOK AND:2dTESH DIGRAPH WITH:2dEZH:3dDEZH DIGRAPH WITH RETROFLEX:1",
    "dI WITH STROKE AND:2dO WITH:2dTESH DIGRAPH:3dC:3dS WITH CURL"]),
  (122880, [
    "aCOMBINING GLAGOLITIC LETTER AZUdBUKYdVEDEdGLAGOLIdDOBROdYESTUdZHIVETE.dZEMLJAdIZHE",
    "dINITIAL:1dIdDJERVIdKAKOdLJUDIJEdMYSLITEdNASHIdONUdPOKOJIdRITSIdSLOVOdTVRIDOdUKUdFRITUdHERU",
    "..dSHTAdTSIdCHRIVIdSHAdYERUdYERIdYATI.dYUdSMALL YUS.dYOdIOTATED SMALL YUSdBIG:1dIOTATED:2",
    "dFITA"]),
  (123136, [
    "aNYIAKENG PUACHUE HMONG LETTER MAeTSAeNTAeTAeHAeNAeXAeNKAeCAeLAeSAeZAeNCAeNTSAeKAeDAeNYA",
    "eNRAeVAeNTXAeTXAeFAeRAeQAeYAeNQAePAeXYAeNPAeDLAeNPLAeHAHeMLAePLAeGAeRRAeAeAAeIeUeOeOOeEeEE",
    "eW...dTONE-BdTONE-MdTONE-JdTONE-VdTONE-SdTONE-GdTONE-DdSIGN FOR PERSONfTHINGfLOCATION",
    "fANIMALfINVERTEBRATEeXW XWdSYLLABLE LENGTHENER..dDIGIT ZEROeONEeTWOeTHREEeFOUReFIVEeSIX",
    "eSEVENeEIGHTeNINE....dLOGOGRAM NYAJdCIRCLED CA"]),
  (123536, [
    "aTOTO LETTER PAcBAcTAcDAcKAcGAcMAcNAcNGAcSAcCHAcYAcWAcJAcHAcRAcLAcIcBREATHY IcIUcBREATHY:1",
    "cUcEcBREATHY EcEOcBREATHY:1cOcAEcBREATHY:1cAbSIGN RISING TONE.................",
    "aWANCHO LETTER AAcAcBAcCAcDAcGAcYAcPHAcLAcNAcPAcTAcTHAcFAcSAcSHAcJAcZAcWAcVAcKAcOcAUcRAcMA",
    "cKHAcHAcEcIcNGAcUcLLHAcTSAcTRAcONGcAANGcANGcINGcONcENcAANcNYAcUENcYIHbTONE TUPcTUPNIcKOI",
    "cKOINIbDIGIT ZEROcONEcTWOcTHREEcFOURcFIVEcSIXcSEVENcEIGHTcNINE.....bNGUN SIGN"]),
  (124896, [
    "aETHIOPIC SYLLABLE HHYAcHHYUcHHYIcHHYAAcHHYEEcHHYEcHHYO.cGURAGE HHWAcHHWIcHHWEEcHHWE.",
    "cGURAGE MWIdMWEE.dQWIdQWEEdQWEdBWIdBWEEdKWIdKWEEdKWEdGWIdGWEEdGWEdFWIdFWEEdPWIdPWEE.",
    "aMENDE KIKAKUI SYLLABLE M001 KIdM002 KAdM003 KUdM065 KEEdM095 KEdM076 KOOdM048 KOdM179 KUA",
    "dM004 WIdM005 WAdM006 WUdM126 WEEdM118 WEdM114 WOOdM045 WOdM194 WUIdM143 WEIdM061 WVI",
    "dM049 WVAdM139 WVEdM007 MINdM008 MANdM009 MUNdM059 MENdM094 MONdM154 MUANdM189 MUENdM010 BI",
    "dM011 BAdM012 BUdM150 BEEdM097 BEdM103 BOOdM138 BOdM013 IdM014 AdM015 UdM163 EEdM100 E",
    "dM165 OOdM147 OdM137 EIdM131 INdM135:1dM195 ANdM178 ENdM019 SIdM020 SAdM021 SUdM162 SEE",
    "dM116 SEdM136 SOOdM079 SOdM196 SIAdM025 LIdM026 LAdM027 LUdM084 LEEdM073 LEdM054 LOO",
    "dM153 LOdM110 LONG LEdM016 DIdM017 DAdM018 DUdM089 DEEdM180 DOOdM181 DOdM022 TIdM023 TA",
    "dM024 TUdM091 TEEdM055 TEdM104 TOOdM069 TOdM028 JIdM029 JAdM030 JUdM157 JEEdM113 JE",
    "dM160 JOOdM063 JOdM175 LONG:1dM031 YIdM032 YAdM033 YUdM109 YEEdM080 YEdM141 YOOdM121 YO",
    "dM034 FIdM035 FAdM036 FUdM078 FEEdM075 FEdM133 FOOdM088 FOdM197 FUAdM101 FANdM037 NIN",
    "dM038 NANdM039 NUNdM117 NENdM169 NONdM176 HIdM041 HAdM186 HUdM040 HEEdM096 HEdM042 HOO",
    "dM140 HOdM083 HEEIdM128 HOOUdM053 HINdM130 HANdM087 HUNdM052 HENdM193 HONdM046 HUAN",
    "dM090 NGGIdM043 NGGAdM082 NGGUdM115 NGGEEdM146 NGGEdM156 NGGOOdM120 NGGOdM159 NGGAA",
    "dM127 NGGUAdM086 LONG NGGEdM106 LONG NGGOOdM183 LONG NGGOdM155 GIdM111 GAdM168 GUdM190 GEE",
    "dM166 GUEIdM167 GUANdM184 NGENdM057 NGONdM177 NGUANdM068 PIdM099 PAdM050 PUdM081 PEE",
    "dM051 PEdM102 POOdM066 POdM145 MBIdM062 MBAdM122 MBUdM047 MBEEdM188:1dM072 MBEdM172 MBOO",
    "dM174 MBOdM187 MBUUdM161 LONG MBEdM105 LONG MBOOdM142 LONG MBOdM132 KPIdM092 KPAdM074 KPU",
    "dM044 KPEEdM108 KPEdM112 KPOOdM158 KPOdM124 GBIdM056 GBAdM148 GBUdM093 GBEEdM107 GBE",
    "dM071 GBOOdM070 GBOdM171 RAdM123 NDIdM129 NDAdM125 NDUdM191 NDEEdM119 NDEdM067 NDOO",
    "dM064 NDOdM152 NJAdM192 NJUdM149 NJEEdM134 NJOOdM182 VIdM185 VAdM151 VUdM173 VEEdM085 VE",
    "dM144 VOOdM077 VOdM164 NYINdM058 NYANdM170 NYUNdM098 NYENdM060 NYON..cDIGIT ONEdTWOdTHREE",
    "dFOURdFIVEdSIXdSEVENdEIGHTdNINEcCOMBINING NUMBER TEENSeTENSeHUNDREDSeTHOUSANDSeTEN:1",
    "eHUNDRED:1eMILLIONS"]),
  (125184, [
    "aADLAM CAPITAL LETTER ALIFdDAALIdLAAMdMIIMdBAdSINNYIIYHEdPEdBHEdRAdEdFAdIdOdDHAdYHEdWAWdNUN",
    "dKAFdYAdUdJIIMdCHIdHAdQAAFdGAdNYAdTUdNHAdVAdKHAdGBEdZALdKPOdSHAbSMALL LETTER ALIFdDAALI",
    "dLAAMdMIIMdBAdSINNYIIYHEdPEdBHEdRAdEdFAdIdOdDHAdYHEdWAWdNUNdKAFdYAdUdJIIMdCHIdHAdQAAFdGA",
    "dNYAdTUdNHAdVAdKHAdGBEdZALdKPOdSHAbALIF LENGTHENERbVOWEL:1bGEMINATION MARKbHAMZA",
    "bCONSONANT MODIFIERbGEMINATE:2bNUKTAbNASALIZATION MARK....bDIGIT ZEROcONEcTWOcTHREEcFOUR",
    "cFIVEcSIXcSEVENcEIGHTcNINE....bINITIAL EXCLAMATION MARKcQUESTION:1"]),
  (126065, [
    "aINDIC SIYAQ NUMBER ONEdTWOdTHREEdFOURdFIVEdSIXdSEVENdEIGHTdNINEdTENdTWENTYdTHIRTYdFORTY",
    "dFIFTYdSIXTYdSEVENTYdEIGHTYdNINETYdONE HUNDREDdTWO:1dTHREE:1dFOUR:1dFIVE:1dSIX:1dSEVEN:1",
    "dEIGHT:1dNINE:1dONE THOUSANDdTWO:1dTHREE:1dFOUR:1dFIVE:1dSIX:1dSEVEN:1dEIGHT:1dNINE:1dTEN:1",
    "dTWENTY:1dTHIRTY:1dFORTY:1dFIFTY:1dSIXTY:1dSEVENTY:1dEIGHTY:1dNINETY:1dLAKHdLAKHAN",
    "cLAKH MARKcNUMBER KARORdKARORANdPREFIXED ONEeTWOeTHREEeFOUReFIVEeSIXeSEVENeEIGHTeNINE",
    "cPLACEHOLDERcFRACTION ONE QUARTEReHALFdTHREE QUARTERScRUPEE MARKcNUMBER ALTERNATE ONEeTWO",
    "eTEN THOUSANDcALTERNATE LAKH MARK"]),
  (126209, [
    "aOTTOMAN SIYAQ NUMBER ONEdTWOdTHREEdFOURdFIVEdSIXdSEVENdEIGHTdNINEdTENdTWENTYdTHIRTYdFORTY",
    "dFIFTYdSIXTYdSEVENTYdEIGHTYdNINETYdONE HUNDREDdTWO:1dTHREE:1dFOUR:1dFIVE:1dSIX:1dSEVEN:1",
    "dEIGHT:1dNINE:1dONE THOUSANDdTWO:1dTHREE:1dFOUR:1dFIVE:1dSIX:1dSEVEN:1dEIGHT:1dNINE:1dTEN:1",
    "dTWENTY:1dTHIRTY:1dFORTY:1dFIFTY:1dSIXTY:1dSEVENTY:1dEIGHTY:1dNINETY:1cMARRATAN",
    "cALTERNATE NUMBER TWOeTHREEeFOUReFIVEeSIXeSEVENeEIGHTeNINEeTENeFOUR HUNDREDeSIX:1",
    "eTWO THOUSANDeTEN:1cFRACTION ONE HALFeSIXTH"]),
  (126464, [
    "aARABIC MATHEMATICAL ALEFcBEHcJEEMcDAL.cWAWcZAINcHAHcTAHcYEHcKAFcLAMcMEEMcNOONcSEENcAINcFEH",
    "cSADcQAFcREHcSHEENcTEHcTHEHcKHAHcTHALcDADcZAHcGHAINcDOTLESS BEHdNOONdFEHdQAF.cINITIAL BEH",
    "dJEEM.dHEH..dHAH.dYEHdKAFdLAMdMEEMdNOONdSEENdAINdFEHdSADdQAF.dSHEENdTEHdTHEHdKHAH.dDAD.",
    "dGHAIN......cTAILED JEEM....dHAH.dYEH.dLAM.dNOONdSEENdAIN.dSADdQAF.dSHEEN..dKHAH.dDAD.",
    "dGHAIN.dDOTLESS NOON.eQAF.cSTRETCHED BEHdJEEM.dHEH..dHAHdTAHdYEHdKAF.dMEEMdNOONdSEENdAIN",
    "dFEHdSADdQAF.dSHEENdTEHdTHEHdKHAH.dDADdZAHdGHAINdDOTLESS BEH.eFEH.cLOOPED ALEFdBEHdJEEMdDAL",
    "dHEHdWAWdZAINdHAHdTAHdYEH.dLAMdMEEMdNOONdSEENdAINdFEHdSADdQAFdREHdSHEENdTEHdTHEHdKHAHdTHAL",
    "dDADdZAHdGHAIN.....cDOUBLE-STRUCK BEHdJEEMdDAL.dWAWdZAINdHAHdTAHdYEH.dLAMdMEEMdNOONdSEEN",
    "dAINdFEHdSADdQAFdREHdSHEENdTEHdTHEHdKHAHdTHALdDADdZAHdGHAIN"]),
  (126704, [
    "aARABIC MATHEMATICAL OPERATOR MEEM WITH HAH WITH TATWEELdHAH WITH DAL"]),
  (126976, [
    "aMAHJONG TILE EAST WINDcSOUTH:1cWEST:1cNORTH:1cRED DRAGONcGREEN:1cWHITE:1cONE OF CHARACTERS",
    "cTWO:2cTHREE:2cFOUR:2cFIVE:2cSIX:2cSEVEN:2cEIGHT:2cNINE:2cONE OF BAMBOOScTWO:2cTHREE:2",
    "cFOUR:2cFIVE:2cSIX:2cSEVEN:2cEIGHT:2cNINE:2cONE OF CIRCLEScTWO:2cTHREE:2cFOUR:2cFIVE:2",
    "cSIX:2cSEVEN:2cEIGHT:2cNINE:2cPLUMcORCHIDcBAMBOOcCHRYSANTHEMUMcSPRINGcSUMMERcAUTUMNcWINTER",
    "cJOKERcBACK....aDOMINO TILE HORIZONTAL:1cHORIZONTAL-00-00++++++cHORIZONTAL-01-00++++++",
    "cHORIZONTAL-02-00++++++cHORIZONTAL-03-00++++++cHORIZONTAL-04-00++++++cHORIZONTAL-05-00+++++",
    "+cHORIZONTAL-06-00++++++cVERTICAL BACKcVERTICAL-00-00++++++cVERTICAL-01-00++++++",
    "cVERTICAL-02-00++++++cVERTICAL-03-00++++++cVERTICAL-04-00++++++cVERTICAL-05-00++++++",
    "cVERTICAL-06-00++++++............aPLAYING CARD BACKcACE OF SPADEScTWO:2cTHREE:2cFOUR:2",
    "cFIVE:2cSIX:2cSEVEN:2cEIGHT:2cNINE:2cTEN:2cJACK:2cKNIGHT:2cQUEEN:2cKING:2..cACE OF HEARTS",
    "cTWO:2cTHREE:2cFOUR:2cFIVE:2cSIX:2cSEVEN:2cEIGHT:2cNINE:2cTEN:2cJACK:2cKNIGHT:2cQUEEN:2",
    "cKING:2cRED JOKER.cACE OF DIAMONDScTWO:2cTHREE:2cFOUR:2cFIVE:2cSIX:2cSEVEN:2cEIGHT:2cNINE:2",
    "cTEN:2cJACK:2cKNIGHT:2cQUEEN:2cKING:2cBLACK JOKER.cACE OF CLUBScTWO:2cTHREE:2cFOUR:2cFIVE:2",
    "cSIX:2cSEVEN:2cEIGHT:2cNINE:2cTEN:2cJACK:2cKNIGHT:2cQUEEN:2cKING:2cWHITE JOKERcFOOLcTRUMP-1",
    "++++++++++++++++++++..........aDIGIT ZERO FULL STOPcCOMMAbONE:1bTWO:1bTHREE:1bFOUR:1bFIVE:1",
    "bSIX:1bSEVEN:1bEIGHT:1bNINE:1aDINGBAT CIRCLED SANS-SERIF DIGIT ZERObNEGATIVE:4",
    "aCIRCLED ZERO WITH SLASHbANTICLOCKWISE ARROWbDOLLAR SIGN WITH OVERLAID BACKSLASH",
    "aPARENTHESIZED LATIN CAPITAL LETTER AeBeCeDeEeFeGeHeIeJeKeLeMeNeOePeQeReSeTeUeVeWeXeYeZ",
    "aTORTOISE SHELL BRACKETED LATIN CAPITAL LETTER SaCIRCLED ITALIC LATIN CAPITAL LETTER CfRbCD",
    "bWZaCOPYLEFT SYMBOLaSQUARED LATIN CAPITAL LETTER AeBeCeDeEeFeGeHeIeJeKeLeMeNeOePeQeReSeTeU",
    "eVeWeXeYeZbHVbMVbSDbSSbPPVbWCaNEGATIVE CIRCLED LATIN CAPITAL LETTER AfBfCfDfEfFfGfHfIfJfKfL",
    "fMfNfOfPfQfRfSfTfUfVfWfXfYfZaRAISED MC SIGNbMD:1bMR:1aCIRCLED CCbC WITH OVERLAID BACKSLASH",
    "bHUMAN FIGUREaNEGATIVE SQUARED LATIN CAPITAL LETTER AfBfCfDfEfFfGfHfIfJfKfLfMfNfOfPfQfRfSfT",
    "fUfVfWfXfYfZaCROSSED NEGATIVE SQUARED LATIN CAPITAL LETTER PaNEGATIVE SQUARED ICcPAcSAcAB",
    "cWCaSQUARE DJaSQUARED CLbCOOLbFREEbIDbNEWbNGbOKbSOSbUP WITH EXCLAMATION MARKbVSbTHREE D",
    "bSECOND SCREENbTWO KbFOUR KbEIGHT KbFIVE POINT ONEbSEVEN:2bTWENTY-TWO POINT TWObSIXTY P",
    "bONE HUNDRED TWENTY PbLATIN SMALL LETTER DbHCbHDRbHI-RESbLOSSLESSbSHVbUHDbVOD",
    "aMASK WORK SYMBOL"]),
  (127462, [
    "aREGIONAL INDICATOR SYMBOL LETTER AeBeCeDeEeFeGeHeIeJeKeLeMeNeOePeQeReSeTeUeVeWeXeYeZ",
    "aSQUARE HIRAGANA HOKAaSQUARED KATAKANA KOKOcSA.............bCJK UNIFIED IDEOGRAPH-624B",
    "dIDEOGRAPH-5B57dIDEOGRAPH-53CCbKATAKANA DEbCJK UNIFIED IDEOGRAPH-4E8CdIDEOGRAPH-591A",
    "dIDEOGRAPH-89E3dIDEOGRAPH-5929dIDEOGRAPH-4EA4dIDEOGRAPH-6620dIDEOGRAPH-7121dIDEOGRAPH-6599",
    "dIDEOGRAPH-524DdIDEOGRAPH-5F8CdIDEOGRAPH-518DdIDEOGRAPH-65B0dIDEOGRAPH-521DdIDEOGRAPH-7D42",
    "dIDEOGRAPH-751FdIDEOGRAPH-8CA9dIDEOGRAPH-58F0dIDEOGRAPH-5439dIDEOGRAPH-6F14dIDEOGRAPH-6295",
    "dIDEOGRAPH-6355dIDEOGRAPH-4E00dIDEOGRAPH-4E09dIDEOGRAPH-904AdIDEOGRAPH-5DE6dIDEOGRAPH-4E2D",
    "dIDEOGRAPH-53F3dIDEOGRAPH-6307dIDEOGRAPH-8D70dIDEOGRAPH-6253dIDEOGRAPH-7981dIDEOGRAPH-7A7A",
    "dIDEOGRAPH-5408dIDEOGRAPH-6E80dIDEOGRAPH-6709dIDEOGRAPH-6708dIDEOGRAPH-7533dIDEOGRAPH-5272",
    "dIDEOGRAPH-55B6dIDEOGRAPH-914D....aTORTOISE SHELL BRACKETED CJK UNIFIED IDEOGRAPH-672C",
    "fIDEOGRAPH-4E09fIDEOGRAPH-4E8CfIDEOGRAPH-5B89fIDEOGRAPH-70B9fIDEOGRAPH-6253fIDEOGRAPH-76D7",
    "fIDEOGRAPH-52DDfIDEOGRAPH-6557.......aCIRCLED IDEOGRAPH ADVANTAGEcACCEPT..............",
    "aROUNDED SYMBOL FOR FUdLUdSHOUdXIdSHUANGXIdCAI"]),
  (127744, [
    "aCYCLONEaFOGGYaCLOSED UMBRELLAaNIGHT WITH STARSaSUNRISE OVER MOUNTAINSbaCITYSCAPE AT DUSK",
    "aSUNSET OVER BUILDINGSaRAINBOWaBRIDGE AT NIGHTaWATER WAVEaVOLCANOaMILKY WAY",
    "aEARTH GLOBE EUROPE-AFRICAcAMERICAScASIA-AUSTRALIAaGLOBE WITH MERIDIANSaNEW MOON SYMBOL",
    "aWAXING CRESCENT:2aFIRST QUARTER:2aWAXING GIBBOUS:2aFULL:2aWANING GIBBOUS:2aLAST QUARTER:2",
    "aWANING CRESCENT:2aCRESCENT MOONaNEW MOON WITH FACEaFIRST QUARTER:3aLAST:4aFULL:3aSUN:2",
    "aGLOWING STARaSHOOTING:1aTHERMOMETERaBLACK DROPLETaWHITE SUNcWITH SMALL CLOUDcBEHIND:1",
    "eWITH RAINa:3cSNOWcLIGHTNINGcTORNADOaFOGaWIND BLOWING FACEaHOT DOGaTACOaBURRITOaCHESTNUT",
    "aSEEDLINGaEVERGREEN TREEaDECIDUOUS:1aPALM:1aCACTUSaHOT PEPPERaTULIPaCHERRY BLOSSOMaROSE",
    "aHIBISCUSaSUNFLOWERaBLOSSOMaEAR OF MAIZEcRICEaHERBaFOUR LEAF CLOVERaMAPLE LEAFaFALLEN:1",
    "aLEAF FLUTTERING IN WINDaMUSHROOMaTOMATOaAUBERGINEaGRAPESaMELONaWATERMELONaTANGERINEaLEMON",
    "aBANANAaPINEAPPLEaRED APPLEaGREEN:1aPEARaPEACHaCHERRIESaSTRAWBERRYaHAMBURGERaSLICE OF PIZZA",
    "aMEAT ON BONEaPOULTRY LEGaRICE CRACKERbBALLaCOOKED RICEaCURRY AND:1aSTEAMING BOWLaSPAGHETTI",
    "aBREADaFRENCH FRIESaROASTED SWEET POTATOaDANGOaODENaSUSHIaFRIED SHRIMP",
    "aFISH CAKE WITH SWIRL DESIGNaSOFT ICE CREAMaSHAVED ICEaICE CREAMaDOUGHNUTaCOOKIE",
    "aCHOCOLATE BARaCANDYaLOLLIPOPaCUSTARDaHONEY POTaSHORTCAKEaBENTO BOXaPOT OF FOODaCOOKING",
    "aFORK AND KNIFEaTEACUP WITHOUT HANDLEaSAKE BOTTLE AND CUPaWINE GLASSaCOCKTAIL:1",
    "aTROPICAL DRINKaBEER MUGaCLINKING BEER MUGSaBABY BOTTLEaFORK AND KNIFE WITH PLATE",
    "aBOTTLE WITH POPPING CORKaPOPCORNaRIBBONaWRAPPED PRESENTaBIRTHDAY CAKEaJACK-O-LANTERN",
    "aCHRISTMAS TREEaFATHER CHRISTMASaFIREWORKSaFIREWORK SPARKLERaBALLOONaPARTY POPPER",
    "aCONFETTI BALLaTANABATA TREEaCROSSED FLAGSaPINE DECORATIONaJAPANESE DOLLSaCARP STREAMER",
    "aWIND CHIMEaMOON VIEWING CEREMONYaSCHOOL SATCHELaGRADUATION CAPaHEART WITH TIP ON THE LEFT",
    "aBOUQUET OF FLOWERSaMILITARY MEDALaREMINDER RIBBONaMUSICAL KEYBOARD WITH JACKS",
    "aSTUDIO MICROPHONEaLEVEL SLIDERaCONTROL KNOBSaBEAMED ASCENDING MUSICAL NOTESbDESCENDING:2",
    "aFILM FRAMESaADMISSION TICKETSaCAROUSEL HORSEaFERRIS WHEELaROLLER COASTER",
    "aFISHING POLE AND FISHaMICROPHONEaMOVIE CAMERAaCINEMAaHEADPHONEaARTIST PALETTEaTOP HAT",
    "aCIRCUS TENTaTICKETaCLAPPER BOARDaPERFORMING ARTSaVIDEO GAMEaDIRECT HITaSLOT MACHINE",
    "aBILLIARDSaGAME DIEaBOWLINGaFLOWER PLAYING CARDSaMUSICAL NOTEaMULTIPLE MUSICAL NOTES",
    "aSAXOPHONEaGUITARaMUSICAL KEYBOARDaTRUMPETaVIOLINaMUSICAL SCOREaRUNNING SHIRT WITH SASH",
    "aTENNIS RACQUET AND BALLaSKI AND SKI BOOTaBASKETBALL AND HOOPaCHEQUERED FLAGaSNOWBOARDER",
    "aRUNNERaSURFERaSPORTS MEDALaTROPHYaHORSE RACINGaAMERICAN FOOTBALLaRUGBY:1aSWIMMER",
    "aWEIGHT LIFTERaGOLFERaRACING MOTORCYCLEbCARaCRICKET BAT AND BALLaVOLLEYBALL",
    "aFIELD HOCKEY STICK AND BALLaICE HOCKEY STICK AND PUCKaTABLE TENNIS PADDLE AND BALL",
    "aSNOW CAPPED MOUNTAINaCAMPINGaBEACH WITH UMBRELLAaBUILDING CONSTRUCTIONaHOUSE BUILDINGS",
    "aCITYSCAPEaDERELICT HOUSE BUILDINGaCLASSICAL:1aDESERTbISLANDaNATIONAL PARKaSTADIUM",
    "aHOUSE BUILDINGbWITH GARDENaOFFICE BUILDINGaJAPANESE POST OFFICEaEUROPEAN:2aHOSPITALaBANK",
    "aAUTOMATED TELLER MACHINEaHOTELaLOVE:1aCONVENIENCE STOREaSCHOOLaDEPARTMENT STOREaFACTORY",
    "aIZAKAYA LANTERNaJAPANESE CASTLEaEUROPEAN:1aWHITE PENNANTaBLACK:1aWAVING WHITE FLAGbBLACK:1",
    "aROSETTEaBLACK:1aLABELaBADMINTON RACQUET AND SHUTTLECOCKaBOW AND ARROWaAMPHORA",
    "aEMOJI MODIFIER FITZPATRICK TYPE-1-2dTYPE-3+++aRATaMOUSEaOXaWATER BUFFALOaCOWaTIGERaLEOPARD",
    "aRABBITaCATaDRAGONaCROCODILEaWHALEaSNAILaSNAKEaHORSEaRAMaGOATaSHEEPaMONKEYaROOSTERaCHICKEN",
    "aDOGaPIGaBOARaELEPHANTaOCTOPUSaSPIRAL SHELLaBUGaANTaHONEYBEEaLADY BEETLEaFISHaTROPICAL:1",
    "aBLOWFISHaTURTLEaHATCHING CHICKaBABY:1aFRONT-FACING:2aBIRDaPENGUINaKOALAaPOODLE",
    "aDROMEDARY CAMELaBACTRIAN:1aDOLPHINaMOUSE FACEaCOW:1aTIGER:1aRABBIT:1aCAT:1aDRAGON:1",
    "aSPOUTING WHALEaHORSE FACEaMONKEY:1aDOG:1aPIG:1aFROG:1aHAMSTER:1aWOLF:1aBEAR:1aPANDA:1",
    "aPIG NOSEaPAW PRINTSaCHIPMUNKaEYESaEYEaEARaNOSEaMOUTHaTONGUE",
    "aWHITE UP POINTING BACKHAND INDEXbDOWN:3bLEFT:3bRIGHT:3aFISTED HAND SIGNaWAVING:2aOK:2",
    "aTHUMBS UP:1bDOWN:1aCLAPPING HANDS:1aOPEN:2aCROWNaWOMANS HATaEYEGLASSESaNECKTIEaT-SHIRT",
    "aJEANSaDRESSaKIMONOaBIKINIaWOMANS CLOTHESaPURSEaHANDBAGaPOUCHaMANS SHOEaATHLETIC:1",
    "aHIGH-HEELED:1aWOMANS SANDALbBOOTSaFOOTPRINTSaBUST IN SILHOUETTEaBUSTS:2aBOYaGIRLaMANaWOMAN",
    "aFAMILYaMAN AND WOMAN HOLDING HANDSaTWO MEN:2bWOMEN:2aPOLICE OFFICERaWOMAN WITH BUNNY EARS",
    "aBRIDE WITH VEILaPERSON WITH BLOND HAIRaMAN WITH GUA PI MAOcTURBANaOLDER MANbWOMANaBABY",
    "aCONSTRUCTION WORKERaPRINCESSaJAPANESE OGREbGOBLINaGHOSTaBABY ANGELaEXTRATERRESTRIAL ALIEN",
    "aALIEN MONSTERaIMPaSKULLaINFORMATION DESK PERSONaGUARDSMANaDANCERaLIPSTICKaNAIL POLISH",
    "aFACE MASSAGEaHAIRCUTaBARBER POLEaSYRINGEaPILLaKISS MARKaLOVE LETTERaRINGaGEM STONEaKISS",
    "aBOUQUETaCOUPLE WITH HEARTaWEDDINGaBEATING HEARTaBROKEN:1aTWO HEARTSaSPARKLING HEART",
    "aGROWING:1aHEART WITH ARROWaBLUE HEARTaGREEN:1aYELLOW:1aPURPLE:1aHEART WITH RIBBON",
    "aREVOLVING HEARTSaHEART DECORATIONaDIAMOND SHAPE WITH A DOT INSIDEaELECTRIC LIGHT BULB",
    "aANGER SYMBOLaBOMBaSLEEPING SYMBOLaCOLLISION:1aSPLASHING SWEAT:1aDROPLETaDASH SYMBOL",
    "aPILE OF POOaFLEXED BICEPSaDIZZY SYMBOLaSPEECH BALLOONaTHOUGHT:1aWHITE FLOWER",
    "aHUNDRED POINTS SYMBOLaMONEY BAGaCURRENCY EXCHANGEaHEAVY DOLLAR SIGNaCREDIT CARD",
    "aBANKNOTE WITH YEN SIGNcDOLLAR:1cEURO:1cPOUND:1aMONEY WITH WINGS",
    "aCHART WITH UPWARDS TREND AND YEN SIGNaSEATaPERSONAL COMPUTERaBRIEFCASEaMINIDISC",
    "aFLOPPY DISKaOPTICAL DISCaDVDaFILE FOLDERaOPEN:2aPAGE WITH CURLbFACING UPaCALENDAR",
    "aTEAR-OFF:1aCARD INDEXaCHART WITH UPWARDS TRENDcDOWNWARDS:1aBAR CHARTaCLIPBOARDaPUSHPIN",
    "aROUND:1aPAPERCLIPaSTRAIGHT RULERaTRIANGULAR:1aBOOKMARK TABSaLEDGERaNOTEBOOK",
    "bWITH DECORATIVE COVERaCLOSED BOOKaOPEN:1aGREEN:1aBLUE:1aORANGE:1aBOOKSaNAME BADGEaSCROLL",
    "aMEMOaTELEPHONE RECEIVERaPAGERaFAX MACHINEaSATELLITE ANTENNAaPUBLIC ADDRESS LOUDSPEAKER",
    "aCHEERING MEGAPHONEaOUTBOX TRAYaINBOX:1aPACKAGEaE-MAIL SYMBOLaINCOMING ENVELOPE",
    "aENVELOPE WITH DOWNWARDS ARROW ABOVEaCLOSED MAILBOX WITH LOWERED FLAGdRAISED:1aOPEN:4",
    "dLOWERED:1aPOSTBOXaPOSTAL HORNaNEWSPAPERaMOBILE PHONEcWITH RIGHTWARDS ARROW AT LEFT",
    "aVIBRATION MODEaMOBILE PHONE OFFaNO MOBILE PHONESaANTENNA WITH BARSaCAMERAbWITH FLASH",
    "aVIDEO CAMERAaTELEVISIONaRADIOaVIDEOCASSETTEaFILM PROJECTORaPORTABLE STEREOaPRAYER BEADS",
    "aTWISTED RIGHTWARDS ARROWSaCLOCKWISE RIGHTWARDS AND LEFTWARDS OPEN CIRCLE:1",
    "hWITH CIRCLED ONE OVERLAYbDOWNWARDS AND UPWARDS OPEN CIRCLE ARROWSaANTICLOCKWISE:6",
    "aLOW BRIGHTNESS SYMBOLaHIGH:2aSPEAKER WITH CANCELLATION STROKEbbWITH ONE SOUND WAVE",
    "cTHREE SOUND WAVESaBATTERYaELECTRIC PLUGaLEFT-POINTING MAGNIFYING GLASSaRIGHT-POINTING:2",
    "aLOCK WITH INK PENaCLOSED LOCK WITH KEYa:1aLOCKaOPEN:1aBELLbWITH CANCELLATION STROKE",
    "aBOOKMARKaLINK SYMBOLaRADIO BUTTONaBACK WITH LEFTWARDS ARROW ABOVEaEND:4",
    "aON WITH EXCLAMATION MARK WITH LEFT RIGHT:2aSOON WITH RIGHTWARDS:2aTOP WITH UPWARDS:2",
    "aNO ONE UNDER EIGHTEEN SYMBOLaKEYCAP TENaINPUT SYMBOL FOR LATIN CAPITAL LETTERSeSMALL:1",
    "dNUMBERSdSYMBOLSdLATIN LETTERSaFIREaELECTRIC TORCHaWRENCHaHAMMERaNUT AND BOLTaHOCHOaPISTOL",
    "aMICROSCOPEaTELESCOPEaCRYSTAL BALLaSIX POINTED STAR WITH MIDDLE DOT",
    "aJAPANESE SYMBOL FOR BEGINNERaTRIDENT EMBLEMaBLACK SQUARE BUTTONaWHITE:2aLARGE RED CIRCLE",
    "bBLUE:1bORANGE DIAMONDbBLUE:1aSMALL ORANGE:1bBLUE:1aUP-POINTING RED TRIANGLE",
    "aDOWN-POINTING:2aUP-POINTING SMALL:2aDOWN-POINTING:3aLOWER RIGHT SHADOWED WHITE CIRCLE",
    "aUPPER:4aCIRCLED CROSS POMMEEaCROSS POMMEE WITH HALF-CIRCLE BELOWc",
    "aNOTCHED LEFT SEMICIRCLE WITH THREE DOTSbRIGHT:4aSYMBOL FOR MARKS CHAPTERaWHITE LATIN CROSS",
    "aHEAVY:2aCELTIC:1aOM SYMBOLaDOVE OF PEACEaKAABAaMOSQUEaSYNAGOGUEaMENORAH WITH NINE BRANCHES",
    "aBOWL OF HYGIEIAaCLOCK FACE ONE OCLOCKcTWO:1cTHREE:1cFOUR:1cFIVE:1cSIX:1cSEVEN:1cEIGHT:1",
    "cNINE:1cTEN:1cELEVEN:1cTWELVE:1cONE-THIRTYcTWO-THIRTYcTHREE-THIRTYcFOUR-THIRTYcFIVE-THIRTY",
    "cSIX-THIRTYcSEVEN-THIRTYcEIGHT-THIRTYcNINE-THIRTYcTEN-THIRTYcELEVEN-THIRTYcTWELVE-THIRTY",
    "aRIGHT SPEAKERcWITH ONE SOUND WAVEdTHREE SOUND WAVESaBULLHORNbWITH SOUND WAVESaRINGING BELL",
    "aBOOKaCANDLEaMANTELPIECE CLOCKaBLACK SKULL AND CROSSBONESaNO PIRACYaHOLE",
    "aMAN IN BUSINESS SUIT LEVITATINGaSLEUTH OR SPYaDARK SUNGLASSESaSPIDERbWEBaJOYSTICK",
    "aMAN DANCINGaLEFT HAND TELEPHONE RECEIVERaTELEPHONE RECEIVER WITH PAGE",
    "aRIGHT HAND TELEPHONE RECEIVERaWHITE TOUCHTONE TELEPHONEaBLACK:2aTELEPHONE ON TOP OF MODEM",
    "aCLAMSHELL MOBILE PHONEaBACK OF ENVELOPEaSTAMPED:1aENVELOPE WITH LIGHTNINGaFLYING ENVELOPE",
    "aPEN OVER STAMPED:1aLINKED PAPERCLIPSaBLACK PUSHPINaLOWER LEFT PENCILcBALLPOINT PEN",
    "cFOUNTAIN:1cPAINTBRUSHcCRAYONaLEFT WRITING HANDaTURNED OK HAND SIGN",
    "aRAISED HAND WITH FINGERS SPLAYEDaREVERSED:5bTHUMBS UP SIGNcDOWN:1bVICTORY HAND",
    "bHAND WITH MIDDLE FINGER EXTENDEDaRAISED HAND WITH PART BETWEEN MIDDLE AND RING FINGERS",
    "aWHITE DOWN POINTING LEFT HAND INDEXaSIDEWAYS WHITE LEFT POINTING:1cRIGHT:2bBLACK LEFT:2",
    "cRIGHT:2aBLACK LEFT POINTING BACKHAND:1bRIGHT:3aSIDEWAYS WHITE UP POINTING:1cDOWN:2",
    "bBLACK UP:2cDOWN:2aBLACK UP POINTING BACKHAND:1bDOWN:3bHEARTaDESKTOP COMPUTER",
    "aKEYBOARD AND MOUSEaTHREE NETWORKED COMPUTERSaPRINTERaPOCKET CALCULATOR",
    "aBLACK HARD SHELL FLOPPY DISKaWHITE:4aSOFT:3aTAPE CARTRIDGEaWIRED KEYBOARDaONE BUTTON MOUSE",
    "aTWO:2aTHREE:2aTRACKBALLaOLD PERSONAL COMPUTERaHARD DISKaSCREENaPRINTER ICONaFAX:1",
    "aOPTICAL DISC:1aDOCUMENT WITH TEXTdAND PICTUREc:1aFRAME:2cTILEScAN XaBLACK FOLDERa:1aOPEN:1",
    "aCARD INDEX DIVIDERSbFILE BOXaFILE CABINETaEMPTY NOTEcPAGEcPADaNOTEbPAGEbPADaEMPTY DOCUMENT",
    "bPAGEbPAGESaDOCUMENTaPAGEaPAGESaWASTEBASKETaSPIRAL NOTE PADbCALENDAR:1aDESKTOP WINDOW",
    "aMINIMIZEaMAXIMIZEaOVERLAPaCLOCKWISE RIGHT AND LEFT SEMICIRCLE ARROWSaCANCELLATION X",
    "aINCREASE FONT SIZE SYMBOLaDECREASE:3aCOMPRESSIONaOLD KEYaROLLED-UP NEWSPAPER",
    "aPAGE WITH CIRCLED TEXTaSTOCK CHARTaDAGGER KNIFEaLIPSaSPEAKING HEAD IN SILHOUETTE",
    "aTHREE RAYS ABOVEcBELOWcLEFTcRIGHTaLEFT SPEECH BUBBLEaRIGHT:2aTWO SPEECH BUBBLESaTHREE:2",
    "aLEFT THOUGHT BUBBLEaRIGHT:2aLEFT ANGER:1aRIGHT:2aMOOD:1aLIGHTNING:2c",
    "aBALLOT BOX WITH BALLOTbSCRIPT XbBOX WITH:2bBOLD:2bBOX WITH:3aLIGHT CHECK MARK",
    "aBALLOT BOX WITH BOLD CHECKaWORLD MAPaMOUNT FUJIaTOKYO TOWERaSTATUE OF LIBERTY",
    "aSILHOUETTE OF JAPANaMOYAIaGRINNING FACEcWITH SMILING EYESaFACE WITH TEARS OF JOY",
    "aSMILING FACE WITH OPEN MOUTHfAND SMILING EYESgCOLD SWEATgTIGHTLY-CLOSED EYESdHALOdHORNS",
    "aWINKING FACEaSMILING FACE WITH SMILING EYESaFACE SAVOURING DELICIOUS FOODaRELIEVED FACE",
    "aSMILING FACE WITH HEART-SHAPED EYESdSUNGLASSESaSMIRKING FACEaNEUTRAL:1aEXPRESSIONLESS:1",
    "aUNAMUSED:1aFACE WITH COLD SWEATaPENSIVE FACEaCONFUSED:1aCONFOUNDED:1aKISSING:1",
    "aFACE THROWING A KISSaKISSING FACE WITH SMILING EYESdCLOSED:1aFACE WITH STUCK-OUT TONGUE",
    "eAND WINKING EYEfTIGHTLY-CLOSED EYESaDISAPPOINTED FACEaWORRIED:1aANGRY:1aPOUTING:1aCRYING:1",
    "aPERSEVERING:1aFACE WITH LOOK OF TRIUMPHaDISAPPOINTED BUT RELIEVED FACE",
    "aFROWNING FACE WITH OPEN MOUTHaANGUISHED FACEaFEARFUL:1aWEARY:1aSLEEPY:1aTIRED:1",
    "aGRIMACING:1aLOUDLY CRYING:1aFACE WITH OPEN MOUTHaHUSHED FACE",
    "aFACE WITH OPEN MOUTH AND COLD SWEATbSCREAMING IN FEARaASTONISHED FACEaFLUSHED:1aSLEEPING:1",
    "aDIZZY:1aFACE WITHOUT MOUTHbWITH MEDICAL MASKaGRINNING CAT FACE WITH SMILING EYES",
    "aCAT FACE WITH TEARS OF JOYaSMILING CAT FACE WITH OPEN MOUTHeHEART-SHAPED EYES",
    "aCAT FACE WITH WRY SMILEaKISSING CAT FACE WITH CLOSED EYESaPOUTING CAT FACEaCRYING:2",
    "aWEARY:2aSLIGHTLY FROWNING:1bSMILING:1aUPSIDE-DOWN:1aFACE WITH ROLLING EYEScNO GOOD GESTURE",
    "cOK:1aPERSON BOWING DEEPLYaSEE-NO-EVIL MONKEYaHEAR-NO-EVIL:1aSPEAK-NO-EVIL:1",
    "aHAPPY PERSON RAISING ONE HANDaPERSON RAISING BOTH HANDS IN CELEBRATIONbFROWNING",
    "bWITH POUTING FACEcFOLDED HANDSaNORTH WEST POINTING LEAFaSOUTH:3aNORTH EAST:2aSOUTH:3",
    "aTURNED NORTH WEST:2bSOUTH:3bNORTH EAST:2bSOUTH:3aNORTH WEST POINTING VINE:1aSOUTH:4",
    "aNORTH EAST:3aSOUTH:4aHEAVY NORTH WEST:3bSOUTH:4bNORTH EAST:3bSOUTH:4",
    "aNORTH WEST POINTING BUDaSOUTH:3aNORTH EAST:2aSOUTH:3aHEAVY NORTH WEST:2bSOUTH:3",
    "bNORTH EAST:2bSOUTH:3aHOLLOW QUILT SQUARE ORNAMENTeIN BLACK SQUARE",
    "aSOLID QUILT SQUARE ORNAMENTeIN BLACK SQUAREaLEFTWARDS ROCKETaUPWARDS:1aRIGHTWARDS:1",
    "aDOWNWARDS:1aSCRIPT LIGATURE ET ORNAMENTaHEAVY:4aLIGATURE OPEN:2aHEAVY:4bAMPERSAND:1",
    "aSWASH:2aSANS-SERIF HEAVY DOUBLE TURNED COMMA QUOTATION MARK:1d:4cLOW:5aHEAVY INTERROBANG:1",
    "aSANS-SERIF:2aHEAVY:3aVERY HEAVY SOLIDUScREVERSE:1aCHECKER BOARDaREVERSE:2aROCKET",
    "aHELICOPTERaSTEAM LOCOMOTIVEaRAILWAY CARaHIGH-SPEED TRAINcWITH BULLET NOSEaTRAINaMETRO",
    "aLIGHT RAILaSTATIONaTRAMbCARaBUSaONCOMING:1aTROLLEYBUSaBUS STOPaMINIBUSaAMBULANCE",
    "aFIRE ENGINEaPOLICE CARaONCOMING:2aTAXIaONCOMING:1aAUTOMOBILEaONCOMING:1",
    "aRECREATIONAL VEHICLEaDELIVERY TRUCKaARTICULATED LORRYaTRACTORaMONORAILaMOUNTAIN RAILWAY",
    "aSUSPENSION:1aMOUNTAIN CABLEWAYaAERIAL TRAMWAYaSHIPaROWBOATaSPEEDBOAT",
    "aHORIZONTAL TRAFFIC LIGHTaVERTICAL:2aCONSTRUCTION SIGNaPOLICE CARS REVOLVING LIGHT",
    "aTRIANGULAR FLAG ON POSTaDOORaNO ENTRY SIGNaSMOKING SYMBOLaNO:2aPUT LITTER IN ITS PLACE:1",
    "aDO NOT LITTER:1aPOTABLE WATER:1aNON-POTABLE:2aBICYCLEaNO BICYCLESaBICYCLISTaMOUNTAIN:1",
    "aPEDESTRIANaNO PEDESTRIANSaCHILDREN CROSSINGaMENS SYMBOLaWOMENS:1aRESTROOMaBABY SYMBOL",
    "aTOILETaWATER CLOSETaSHOWERaBATHaBATHTUBaPASSPORT CONTROLaCUSTOMSaBAGGAGE CLAIM",
    "aLEFT LUGGAGEaTRIANGLE WITH ROUNDED CORNERSaPROHIBITED SIGNaCIRCLED INFORMATION SOURCE",
    "aBOYS SYMBOLaGIRLS:1aCOUCH AND LAMPaSLEEPING ACCOMMODATIONaSHOPPING BAGSaBELLHOP BELLaBED",
    "aPLACE OF WORSHIPaOCTAGONAL SIGNaSHOPPING TROLLEYaSTUPAaPAGODAaHINDU TEMPLEaHUTaELEVATOR...",
    "..aPLAYGROUND SLIDEaWHEELaRING BUOYaHAMMER AND WRENCHaSHIELDaOIL DRUMaMOTORWAY",
    "aRAILWAY TRACKaMOTOR BOATaUP-POINTING MILITARY AIRPLANEb:1bSMALL:1a:2aNORTHEAST-POINTING:1",
    "aAIRPLANE DEPARTUREbARRIVING...aSATELLITEaONCOMING FIRE ENGINEaDIESEL LOCOMOTIVE",
    "aPASSENGER SHIPaSCOOTERaMOTOR:1aCANOEaSLEDaFLYING SAUCERaSKATEBOARDaAUTO RICKSHAW",
    "aPICKUP TRUCKaROLLER SKATE...aALCHEMICAL SYMBOL FOR QUINTESSENCEdAIRdFIREdEARTHdWATER",
    "dAQUAFORTISdAQUA REGIAeREGIA-2eVITAEeVITAE-2dVINEGARdVINEGAR-2+dSULFURdPHILOSOPHERS:1",
    "dBLACK:1dMERCURY SUBLIMATEeSUBLIMATE-2+dCINNABARdSALTdNITREdVITRIOLdVITRIOL-2dROCK SALT",
    "eSALT-2dGOLDdSILVERdIRON OREeORE-2dCROCUS OF IRONdREGULUS:2dCOPPER OREdIRON-COPPER:1",
    "dSUBLIMATE OF COPPERdCROCUS:2fCOPPER-2dCOPPER ANTIMONIATEdSALT OF:2",
    "dSUBLIMATE OF SALT OF COPPERdVERDIGRISdTIN OREdLEAD:1dANTIMONY:1dSUBLIMATE OF ANTIMONY",
    "dSALT:2dSUBLIMATE OF:3dVINEGAR:2dREGULUS:2fANTIMONY-2edREGULUS-2++dALKALIdALKALI-2",
    "dMARCASITEdSAL-AMMONIACdARSENICdREALGARdREALGAR-2dAURIPIGMENTdBISMUTH OREdTARTARdTARTAR-2",
    "dQUICK LIMEdBORAXdBORAX-2+dALUMdOILdSPIRITdTINCTUREdGUMdWAXdPOWDERdCALXdTUTTYdCAPUT MORTUUM",
    "dSCEPTER OF JOVEdCADUCEUSdTRIDENTdSTARRED:1dLODESTONEdSOAPdURINEdHORSE DUNGdASHESdPOT:1",
    "dBRICKdPOWDERED:1dAMALGAMdSTRATUM SUPER STRATUMfSTRATUM-2dSUBLIMATIONdPRECIPITATEdDISTILL",
    "dDISSOLVEdDISSOLVE-2dPURIFYdPUTREFACTIONdCRUCIBLEdCRUCIBLE-2+++dALEMBICdBATH OF MARY",
    "fVAPOURSdRETORTdHOURdNIGHTdDAY-NIGHTdMONTHdHALF DRAMeOUNCE............",
    "aBLACK LEFT-POINTING ISOSCELES RIGHT TRIANGLEbUP-POINTING:3bRIGHT-POINTING:3",
    "bDOWN-POINTING:3bSLIGHTLY SMALL CIRCLEaMEDIUM BOLD WHITE:1a:3aHEAVY:2aVERY:3aEXTREMELY:3",
    "aWHITE CIRCLE CONTAINING BLACK SMALL:1aROUND TARGETaBLACK TINY SQUAREbSLIGHTLY SMALL:1",
    "aLIGHT WHITE:1aMEDIUM:2aBOLD:2aHEAVY:2aVERY:3aEXTREMELY:3",
    "aWHITE SQUARE CONTAINING BLACK VERY SMALL:1eMEDIUM:1aSQUARE TARGETaBLACK TINY DIAMOND",
    "bVERY SMALL:1bMEDIUM:2aWHITE DIAMOND CONTAINING BLACK VERY:2eMEDIUM:1aDIAMOND TARGET",
    "aBLACK TINY LOZENGEbVERY SMALL:1bMEDIUM:2aWHITE LOZENGE CONTAINING BLACK:2aTHIN GREEK CROSS",
    "aLIGHT:2aMEDIUM:2aBOLD:2aVERY:3bHEAVY:2aEXTREMELY:3aTHIN SALTIREaLIGHT:1aMEDIUM:1aBOLD:1",
    "aHEAVY:1aVERY:2aEXTREMELY:2aLIGHT FIVE SPOKED ASTERISKaMEDIUM:3aBOLD:3aHEAVY:3aVERY:4",
    "aEXTREMELY:4aLIGHT SIX:2aMEDIUM:3aBOLD:3aHEAVY:3aVERY:4aEXTREMELY:4aLIGHT EIGHT:2aMEDIUM:3",
    "aBOLD:3aHEAVY:3aVERY:4aLIGHT THREE POINTED BLACK STARaMEDIUM:4a:4",
    "aMEDIUM THREE POINTED PINWHEEL:1aLIGHT FOUR POINTED BLACK:1aMEDIUM:4a:4",
    "aMEDIUM FOUR POINTED PINWHEEL:1aREVERSE LIGHT:4aLIGHT FIVE POINTED BLACK:1aHEAVY:4",
    "aMEDIUM SIX:3aHEAVY:4aSIX POINTED PINWHEEL:1aMEDIUM EIGHT POINTED BLACK:1aHEAVY:4aVERY:5",
    "aHEAVY EIGHT POINTED PINWHEEL:1aLIGHT TWELVE POINTED BLACK:1aHEAVY:4dPINWHEEL:1",
    "aCIRCLED TRIANGLEaNEGATIVE:2aCIRCLED SQUAREaNEGATIVE:2.......aLARGE ORANGE CIRCLEbYELLOW:1",
    "bGREEN:1bPURPLE:1bBROWN:1bRED SQUAREbBLUE:1bORANGE:1bYELLOW:1bGREEN:1bPURPLE:1bBROWN:1....",
    "aHEAVY EQUALS SIGN...............aLEFTWARDS ARROW WITH SMALL TRIANGLE ARROWHEADaUPWARDS:5",
    "aRIGHTWARDS:5aDOWNWARDS:5aLEFTWARDS ARROW WITH MEDIUM:2aUPWARDS:5aRIGHTWARDS:5aDOWNWARDS:5",
    "aLEFTWARDS ARROW WITH LARGE:2aUPWARDS:5aRIGHTWARDS:5aDOWNWARDS:5....",
    "aLEFTWARDS ARROW WITH SMALL EQUILATERAL:1aUPWARDS:5aRIGHTWARDS:5aDOWNWARDS:5",
    "aLEFTWARDS ARROW WITH:2aUPWARDS:4aRIGHTWARDS:4aDOWNWARDS:4aHEAVY LEFTWARDS:4bUPWARDS:4",
    "bRIGHTWARDS:4bDOWNWARDS:4bLEFTWARDS ARROW WITH LARGE:2bUPWARDS:5bRIGHTWARDS:5bDOWNWARDS:5",
    "aLEFTWARDS TRIANGLE-HEADED ARROW WITH NARROW SHAFTaUPWARDS:5aRIGHTWARDS:5aDOWNWARDS:5",
    "aLEFTWARDS TRIANGLE-HEADED ARROW WITH MEDIUM:1aUPWARDS:5aRIGHTWARDS:5aDOWNWARDS:5",
    "aLEFTWARDS TRIANGLE-HEADED ARROW WITH BOLD:1aUPWARDS:5aRIGHTWARDS:5aDOWNWARDS:5",
    "aLEFTWARDS TRIANGLE-HEADED ARROW WITH HEAVY:1aUPWARDS:5aRIGHTWARDS:5aDOWNWARDS:5",
    "aLEFTWARDS TRIANGLE-HEADED ARROW WITH VERY:2aUPWARDS:6aRIGHTWARDS:6aDOWNWARDS:6",
    "aLEFTWARDS FINGER-POST ARROWaUPWARDS:2aRIGHTWARDS:2aDOWNWARDS:2aLEFTWARDS SQUARED:1",
    "aUPWARDS:2aRIGHTWARDS:2aDOWNWARDS:2aLEFTWARDS COMPRESSED:1aUPWARDS:2aRIGHTWARDS:2",
    "aDOWNWARDS:2aLEFTWARDS HEAVY:2aUPWARDS:3aRIGHTWARDS:3aDOWNWARDS:3aLEFTWARDS HEAVY:1",
    "aUPWARDS:2aRIGHTWARDS:2aDOWNWARDS:2........aLEFTWARDS SANS-SERIF:1aUPWARDS:2aRIGHTWARDS:2",
    "aDOWNWARDS:2aNORTH WEST:2bEAST:2aSOUTH:3bWEST:2aLEFT RIGHT:2aUP DOWN:2......",
    "aWIDE-HEADED LEFTWARDS LIGHT BARB:1bUPWARDS:3bRIGHTWARDS:3bDOWNWARDS:3bNORTH WEST:3cEAST:3",
    "bSOUTH:4cWEST:3bLEFTWARDS:2bUPWARDS:2bRIGHTWARDS:2bDOWNWARDS:2bNORTH WEST:2cEAST:2bSOUTH:3",
    "cWEST:2bLEFTWARDS MEDIUM:2bUPWARDS:3bRIGHTWARDS:3bDOWNWARDS:3bNORTH WEST:3cEAST:3bSOUTH:4",
    "cWEST:3bLEFTWARDS HEAVY:2bUPWARDS:3bRIGHTWARDS:3bDOWNWARDS:3bNORTH WEST:3cEAST:3bSOUTH:4",
    "cWEST:3bLEFTWARDS VERY:3bUPWARDS:4bRIGHTWARDS:4bDOWNWARDS:4bNORTH WEST:4cEAST:4bSOUTH:5",
    "cWEST:4........aLEFTWARDS TRIANGLE ARROWHEADaUPWARDS:2aRIGHTWARDS:2aDOWNWARDS:2",
    "aLEFTWARDS WHITE ARROW WITHIN:2aUPWARDS:5aRIGHTWARDS:5aDOWNWARDS:5",
    "aLEFTWARDS ARROW WITH NOTCHED TAILaUPWARDS:4aRIGHTWARDS:4aDOWNWARDS:4",
    "aHEAVY ARROW SHAFT WIDTH ONEeTWO THIRDSeONE HALFfTHIRDaLEFTWARDS BOTTOM-SHADED WHITE ARROW",
    "aRIGHTWARDS BOTTOM SHADED:2aLEFTWARDS TOP:3aRIGHTWARDS:4aLEFTWARDS LEFT-SHADED:2",
    "aRIGHTWARDS RIGHT-SHADED:2aLEFTWARDS:3aRIGHTWARDS LEFT-SHADED:2",
    "aLEFTWARDS BACK-TILTED SHADOWED:2aRIGHTWARDS:4aLEFTWARDS FRONT-TILTED:3aRIGHTWARDS:4",
    "aWHITE ARROW SHAFT WIDTH ONEeTWO THIRDS..aARROW POINTING UPWARDS THEN NORTH WEST",
    "cRIGHTWARDS THEN CURVING SOUTH:1"]),
  (129280, [
    "aCIRCLED CROSS FORMEE WITH FOUR DOTSeTWO:1daLEFT HALF CIRCLE WITH FOUR DOTSeTHREE:1eTWO:1",
    "eDOTdaDOWNWARD FACING HOOKcNOTCHED:1cHOOK WITH DOTcNOTCHED:3aPINCHED FINGERSaWHITE HEART",
    "aBROWN:1aPINCHING HANDaZIPPER-MOUTH FACEaMONEY-MOUTH:1aFACE WITH THERMOMETERaNERD FACE",
    "aTHINKING:1aFACE WITH HEAD-BANDAGEaROBOT FACEaHUGGING:1aSIGN OF THE HORNSaCALL ME HAND",
    "aRAISED BACK OF:1aLEFT-FACING FISTaRIGHT-FACING:1aHANDSHAKE",
    "aHAND WITH INDEX AND MIDDLE FINGERS CROSSEDaI LOVE YOU HAND SIGNaFACE WITH COWBOY HAT",
    "aCLOWN FACEaNAUSEATED:1aROLLING ON THE FLOOR LAUGHINGaDROOLING FACEaLYING:1aFACE PALM",
    "aSNEEZING FACEaFACE WITH ONE EYEBROW RAISEDaGRINNING FACE WITH STAR EYES",
    "dONE LARGE AND ONE SMALL EYEaFACE WITH FINGER COVERING CLOSED LIPS",
    "aSERIOUS FACE WITH SYMBOLS COVERING MOUTHaSMILING FACE WITH SMILING EYES AND HAND:2",
    "aFACE WITH OPEN MOUTH VOMITINGaSHOCKED FACE WITH EXPLODING HEADaPREGNANT WOMAN",
    "aBREAST-FEEDINGaPALMS UP TOGETHERaSELFIEaPRINCEaMAN IN TUXEDOaMOTHER CHRISTMASaSHRUG",
    "aPERSON DOING CARTWHEELaJUGGLINGaFENCERaMODERN PENTATHLONaWRESTLERSaWATER POLOaHANDBALL",
    "aDIVING MASKaWILTED FLOWERaDRUM WITH DRUMSTICKSaCLINKING GLASSESaTUMBLER GLASSaSPOON",
    "aGOAL NETaRIFLEaFIRST PLACE MEDALaSECOND:2aTHIRD:2aBOXING GLOVEaMARTIAL ARTS UNIFORM",
    "aCURLING STONEaLACROSSE STICK AND BALLaSOFTBALLaFLYING DISCaCROISSANTaAVOCADOaCUCUMBER",
    "aBACONaPOTATOaCARROTaBAGUETTE BREADaGREEN SALADaSHALLOW PAN OF FOODaSTUFFED FLATBREADaEGG",
    "aGLASS OF MILKaPEANUTSaKIWIFRUITaPANCAKESaDUMPLINGaFORTUNE COOKIEaTAKEOUT BOXaCHOPSTICKS",
    "aBOWL WITH SPOONaCUP WITH STRAWaCOCONUTaBROCCOLIaPIEaPRETZELaCUT OF MEATaSANDWICH",
    "aCANNED FOODaLEAFY GREENaMANGOaMOON CAKEaBAGEL",
    "aSMILING FACE WITH SMILING EYES AND THREE HEARTSaYAWNING FACEaSMILING FACE WITH TEAR",
    "aFACE WITH PARTY HORN AND PARTY HATcUNEVEN EYES AND WAVY MOUTHaOVERHEATED FACEaFREEZING:1",
    "aNINJAaDISGUISED FACEaFACE HOLDING BACK TEARSbWITH PLEADING EYESaSARIaLAB COATaGOGGLES",
    "aHIKING BOOTaFLAT SHOEaCRABaLION FACEaSCORPIONaTURKEYaUNICORN FACEaEAGLEaDUCKaBATaSHARKaOWL",
    "aFOX FACEaBUTTERFLYaDEERaGORILLAaLIZARDaRHINOCEROSaSHRIMPaSQUIDaGIRAFFE FACEaZEBRA:1",
    "aHEDGEHOGaSAUROPODaT-REXaCRICKETaKANGAROOaLLAMAaPEACOCKaHIPPOPOTAMUSaPARROTaRACCOONaLOBSTER",
    "aMOSQUITOaMICROBEaBADGERaSWANaMAMMOTHaDODOaSLOTHaOTTERaORANGUTANaSKUNKaFLAMINGOaOYSTER",
    "aBEAVERaBISONaSEALaGUIDE DOGaPROBING CANEaEMOJI COMPONENT RED HAIRcCURLY:1cBALDcWHITE HAIR",
    "aBONEaLEGaFOOTaTOOTHaSUPERHEROaSUPERVILLAINaSAFETY VESTaEAR WITH HEARING AID",
    "aMOTORIZED WHEELCHAIRaMANUAL:1aMECHANICAL ARMbLEGaCHEESE WEDGEaCUPCAKEaSALT SHAKER",
    "aBEVERAGE BOXaGARLICaONIONaFALAFELaWAFFLEaBUTTERaMATE DRINKaICE CUBEaBUBBLE TEAaTROLL",
    "aSTANDING PERSONaKNEELING:1aDEAF:1aFACE WITH MONOCLEaADULTaCHILDaOLDER ADULTaBEARDED PERSON",
    "aPERSON WITH HEADSCARFbIN STEAMY ROOMbCLIMBINGbIN LOTUS POSITIONaMAGEaFAIRYaVAMPIRE",
    "aMERPERSONaELFaGENIEaZOMBIEaBRAINaORANGE HEARTaBILLED CAPaSCARFaGLOVESaCOATaSOCKS",
    "aRED GIFT ENVELOPEaFIRECRACKERaJIGSAW PUZZLE PIECEaTEST TUBEaPETRI DISHaDNA DOUBLE HELIX",
    "aCOMPASSaABACUSaFIRE EXTINGUISHERaTOOLBOXaBRICKaMAGNETaLUGGAGEaLOTION BOTTLE",
    "aSPOOL OF THREADaBALL OF YARNaSAFETY PINaTEDDY BEARaBROOMaBASKETaROLL OF PAPERaBAR OF SOAP",
    "aSPONGEaRECEIPTaNAZAR AMULETaNEUTRAL CHESS KINGcQUEENcROOKcBISHOPcKNIGHTcPAWN",
    "aWHITE CHESS KNIGHT ROTATED FORTY-FIVE DEGREESaBLACK:5aNEUTRAL:5",
    "aWHITE CHESS KING ROTATED NINETY:1cQUEEN:3cROOK:3cBISHOP:3cKNIGHT:3cPAWN:3",
    "aBLACK CHESS KING:3cQUEEN:3cROOK:3cBISHOP:3cKNIGHT:3cPAWN:3aNEUTRAL CHESS KING:3cQUEEN:3",
    "cROOK:3cBISHOP:3cKNIGHT:3cPAWN:3aWHITE CHESS KNIGHT ROTATED ONE HUNDRED THIRTY-FIVE:1",
    "aBLACK:7aNEUTRAL:7aWHITE CHESS TURNED KINGdQUEENdROOKdBISHOPdKNIGHTdPAWN",
    "aBLACK CHESS TURNED KINGdQUEENdROOKdBISHOPdKNIGHTdPAWNaNEUTRAL CHESS TURNED KINGdQUEENdROOK",
    "dBISHOPdKNIGHTdPAWNaWHITE CHESS KNIGHT ROTATED TWO HUNDRED TWENTY-FIVE DEGREESaBLACK:7",
    "aNEUTRAL:7aWHITE CHESS KING ROTATED TWO HUNDRED SEVENTY:1cQUEEN:5cROOK:5cBISHOP:5cKNIGHT:5",
    "cPAWN:5aBLACK CHESS KING:5cQUEEN:5cROOK:5cBISHOP:5cKNIGHT:5cPAWN:5aNEUTRAL CHESS KING:5",
    "cQUEEN:5cROOK:5cBISHOP:5cKNIGHT:5cPAWN:5aWHITE CHESS KNIGHT ROTATED THREE HUNDRED FIFTEEN:1",
    "aBLACK:7aNEUTRAL:7aWHITE CHESS EQUIHOPPERaBLACK:2aNEUTRAL:2",
    "aWHITE CHESS EQUIHOPPER ROTATED NINETY DEGREESaBLACK:5aNEUTRAL:5aWHITE CHESS KNIGHT-QUEEN",
    "cKNIGHT-ROOKcKNIGHT-BISHOPaBLACK CHESS KNIGHT-QUEENcKNIGHT-ROOKcKNIGHT-BISHOP............",
    "aXIANGQI RED GENERALcMANDARINcELEPHANTcHORSEcCHARIOTcCANNONcSOLDIERbBLACK GENERALcMANDARIN",
    "cELEPHANTcHORSEcCHARIOTcCANNONcSOLDIER..aBALLET SHOESaONE-PIECE SWIMSUITaBRIEFSaSHORTS",
    "aTHONG SANDAL...aDROP OF BLOODaADHESIVE BANDAGEaSTETHOSCOPEaX-RAYaCRUTCH...aYO-YOaKITE",
    "aPARACHUTEaBOOMERANGaMAGIC WANDaPINATAaNESTING DOLLS.........aRINGED PLANETaCHAIRaRAZORaAXE",
    "aDIYA LAMPaBANJOaMILITARY HELMETaACCORDIONaLONG DRUMaCOINaCARPENTRY SAWaSCREWDRIVERaLADDER",
    "aHOOKaMIRRORaWINDOWaPLUNGERaSEWING NEEDLEaKNOTaBUCKETaMOUSE TRAPaTOOTHBRUSHaHEADSTONE",
    "aPLACARDaROCKaMIRROR BALLaIDENTIFICATION CARDaLOW BATTERYaHAMSA...aFLYaWORMaBEETLE",
    "aCOCKROACHaPOTTED PLANTaWOODaFEATHERaLOTUSaCORALaEMPTY NESTaNEST WITH EGGS.....",
    "aANATOMICAL HEARTaLUNGSaPEOPLE HUGGINGaPREGNANT MANbPERSONaPERSON WITH CROWN..........",
    "aBLUEBERRIESaBELL PEPPERaOLIVEaFLATBREADaTAMALEaFONDUEaTEAPOTaPOURING LIQUIDaBEANSaJAR.....",
    ".aMELTING FACEaSALUTING:1aFACE WITH OPEN EYES AND HAND OVER MOUTHcPEEKING EYE",
    "cDIAGONAL MOUTHaDOTTED LINE FACEaBITING LIPaBUBBLES........",
    "aHAND WITH INDEX FINGER AND THUMB CROSSEDaRIGHTWARDS HANDaLEFTWARDS:1aPALM DOWN:1bUP:1",
    "aINDEX POINTING AT THE VIEWERaHEART HANDS.........aBLOCK SEXTANT-1+bSEXTANT-12bSEXTANT-3",
    "bSEXTANT-13bSEXTANT-23bSEXTANT-123bSEXTANT-4bSEXTANT-14bSEXTANT-24bSEXTANT-124bSEXTANT-34",
    "bSEXTANT-134bSEXTANT-234bSEXTANT-1234bSEXTANT-5bSEXTANT-15bSEXTANT-25bSEXTANT-125",
    "bSEXTANT-35bSEXTANT-235bSEXTANT-1235bSEXTANT-45bSEXTANT-145bSEXTANT-245bSEXTANT-1245",
    "bSEXTANT-345bSEXTANT-1345bSEXTANT-2345bSEXTANT-12345bSEXTANT-6bSEXTANT-16bSEXTANT-26",
    "bSEXTANT-126bSEXTANT-36bSEXTANT-136bSEXTANT-236bSEXTANT-1236bSEXTANT-46bSEXTANT-146",
    "bSEXTANT-1246bSEXTANT-346bSEXTANT-1346bSEXTANT-2346bSEXTANT-12346bSEXTANT-56bSEXTANT-156",
    "bSEXTANT-256bSEXTANT-1256bSEXTANT-356bSEXTANT-1356bSEXTANT-2356bSEXTANT-12356bSEXTANT-456",
    "bSEXTANT-1456bSEXTANT-2456bSEXTANT-12456bSEXTANT-3456bSEXTANT-13456bSEXTANT-23456",
    "aLOWER LEFT BLOCK DIAGONAL LOWER MIDDLE LEFT TO LOWER CENTREjRIGHT",
    "eUPPER MIDDLE LEFT TO LOWER CENTREjRIGHTfLEFT TO LOWER CENTRE",
    "bRIGHT BLOCK DIAGONAL UPPER MIDDLE LEFT TO UPPER:1jRIGHTeLOWER MIDDLE LEFT TO UPPER CENTRE",
    "jRIGHTfLEFT TO UPPER CENTREfMIDDLE LEFT TO UPPER MIDDLE RIGHTfCENTRE TO LOWER:2fLEFT:4",
    "fCENTRE TO UPPER:2fLEFT:4fCENTRE TO UPPER:1",
    "bLEFT BLOCK DIAGONAL UPPER CENTRE TO UPPER MIDDLE:1fLEFT:4fCENTRE TO LOWER:2fLEFT:4",
    "fCENTRE TO LOWER:1fMIDDLE LEFT TO LOWER MIDDLE:1",
    "aUPPER RIGHT BLOCK DIAGONAL LOWER MIDDLE LEFT TO LOWER CENTREjRIGHT",
    "eUPPER MIDDLE LEFT TO LOWER CENTREjRIGHTfLEFT TO LOWER CENTRE",
    "bLEFT BLOCK DIAGONAL UPPER MIDDLE LEFT TO UPPER:1jRIGHTeLOWER MIDDLE LEFT TO UPPER CENTRE",
    "jRIGHTfLEFT TO UPPER CENTREfMIDDLE LEFT TO UPPER MIDDLE RIGHTfCENTRE TO LOWER:2fLEFT:4",
    "fCENTRE TO UPPER:2fLEFT:4fCENTRE TO UPPER:1",
    "bRIGHT BLOCK DIAGONAL UPPER CENTRE TO UPPER MIDDLE:1fLEFT:4fCENTRE TO LOWER:2fLEFT:4",
    "fCENTRE TO LOWER:1fMIDDLE LEFT TO LOWER MIDDLE:1",
    "bAND RIGHT AND LOWER TRIANGULAR THREE QUARTERS BLOCKaLEFT AND LOWER AND RIGHT:4",
    "aUPPER AND LEFT AND LOWER:4aLEFT AND UPPER AND RIGHT:4bTRIANGULAR ONE QUARTER:1aUPPER:4",
    "aRIGHT:4aLOWER:4aVERTICAL ONE EIGHTH BLOCK-2+++++aHORIZONTAL ONE EIGHTH BLOCK-2+++++",
    "aLEFT AND LOWER ONE EIGHTH BLOCKcUPPER:3aRIGHT:5cLOWER:3aUPPER:5",
    "aHORIZONTAL ONE EIGHTH BLOCK-1358aUPPER ONE QUARTER BLOCKbTHREE EIGHTHS:1bFIVE:2",
    "bTHREE QUARTERS:1bSEVEN EIGHTHS:1aRIGHT ONE QUARTER:1bTHREE EIGHTHS:1bFIVE:2",
    "bTHREE QUARTERS:1bSEVEN EIGHTHS:1aLEFT HALF MEDIUM SHADEaRIGHT:3aUPPER:3aLOWER:3aINVERSE:2",
    "aUPPER HALF BLOCK AND LOWER HALF:3cINVERSE MEDIUM SHADE AND LOWER HALF BLOCK.",
    "aLEFT HALF INVERSE MEDIUM SHADE AND RIGHT:2aCHECKER BOARD FILLaINVERSE:3aHEAVY HORIZONTAL:1",
    "aUPPER LEFT TO LOWER RIGHT:1bRIGHT TO LOWER LEFT:1bAND LOWER TRIANGULAR HALF BLOCK",
    "aLEFT AND RIGHT:3aUPPER LEFT TRIANGULAR MEDIUM SHADEbRIGHT:3aLOWER:4bLEFT:3",
    "aBOX DRAWINGS LIGHT DIAGONAL UPPER CENTRE TO MIDDLE LEFTiRIGHTeMIDDLE LEFT TO LOWER CENTRE",
    "fRIGHT:3eUPPER CENTRE TO MIDDLE LEFT:3iRIGHT:3eMIDDLE LEFT TO LOWER CENTRE TO MIDDLE RIGHT",
    "hUPPER:4eUPPER CENTRE TO MIDDLE LEFT AND MIDDLE RIGHT TO LOWER CENTRE",
    "iRIGHT AND MIDDLE LEFT:3jTO LOWER CENTRE TO MIDDLE LEFT",
    "iLEFT TO LOWER CENTRE TO MIDDLE RIGHT",
    "eMIDDLE LEFT TO UPPER CENTRE TO MIDDLE RIGHT TO LOWER CENTRE",
    "fRIGHT TO UPPER CENTRE TO MIDDLE LEFT:3eDIAMONDdHORIZONTAL WITH VERTICAL STROKE",
    "aARROWHEAD-SHAPED POINTERaINVERSE CHECK MARKaLEFT HALF RUNNING MANaRIGHT:3",
    "aINVERSE DOWNWARDS ARROW WITH TIP LEFTWARDS",
    "aLEFTWARDS ARROW AND UPPER AND LOWER ONE EIGHTH BLOCKaRIGHTWARDS:8",
    "aDOWNWARDS ARROW AND RIGHT:3aUPWARDS:6aLEFT HALF FOLDERaRIGHT:2aVOIDED GREEK CROSS",
    "aRIGHT OPEN SQUARED DOTaNEGATIVE DIAGONAL CROSScMIDDLE RIGHT TO LOWER CENTREcDIAMOND",
    "aWHITE HEAVY SALTIRE WITH ROUNDED CORNERSaLEFT THIRD WHITE RIGHT POINTING INDEXaMIDDLE:5",
    "aRIGHT:5aNEGATIVE SQUARED QUESTION MARKaSTICK FIGUREcWITH ARMS RAISEDcLEANING LEFTdRIGHT",
    "cWITH DRESSaWHITE UP-POINTING CHEVRON.....................................",
    "aSEGMENTED DIGIT ZEROcONEcTWOcTHREEcFOURcFIVEcSIXcSEVENcEIGHTcNINE"]),
  (917505, [
    "aLANGUAGE TAG..............................aTAG SPACEbEXCLAMATION MARKbQUOTATION:1",
    "bNUMBER SIGNbDOLLAR:1bPERCENT:1bAMPERSANDbAPOSTROPHEbLEFT PARENTHESISbRIGHT:1bASTERISK",
    "bPLUS SIGNbCOMMAbHYPHEN-MINUSbFULL STOPbSOLIDUSbDIGIT ZEROcONEcTWOcTHREEcFOURcFIVEcSIX",
    "cSEVENcEIGHTcNINEbCOLONbSEMICOLONbLESS-THAN SIGNbEQUALS:1bGREATER-THAN:1bQUESTION MARK",
    "bCOMMERCIAL ATbLATIN CAPITAL LETTER AeBeCeDeEeFeGeHeIeJeKeLeMeNeOePeQeReSeTeUeVeWeXeYeZ",
    "bLEFT SQUARE BRACKETbREVERSE SOLIDUSbRIGHT SQUARE BRACKETbCIRCUMFLEX ACCENTbLOW LINE",
    "bGRAVE ACCENTbLATIN SMALL LETTER AeBeCeDeEeFeGeHeIeJeKeLeMeNeOePeQeReSeTeUeVeWeXeYeZ",
    "bLEFT CURLY BRACKETbVERTICAL LINEbRIGHT CURLY BRACKETbTILDEaCANCEL TAG"]),
  (917760, [
    "aVARIATION SELECTOR-17+++++++++++++++++++++++++++++++++++++++++++++++++++++++++++++++++++++",
    "+++++++++++++++++++++++++++++++++++++++++++++++++++++++++++++++++++++++++++++++++++++++++++",
    "+++++++++++++++++++++++++++++++++++++++++++++++++++++++++++++++++++++++++++++++"])]

end HttpGateway.Text.CharName
